import Mathlib.Data.List.Nodup
import Peripherals.HandleTable
/-!
Tables of live resources as finite maps with two views. `Sound` says that the views agree and that
every handle in use was drawn from the counter. Main statements: entering, changing and taking out an
entry keep a table sound, with the effect of each on the entries and on their number.
-/

set_option autoImplicit false

namespace Peripherals

namespace Assoc

variable {κ ν : Type} [DecidableEq κ]

theorem get?_eq_none_iff {m : Assoc κ ν} {k : κ} : m.get? k = none ↔ k ∉ m.keys := by
  simp only [get?, keys, Option.map_eq_none_iff, List.find?_eq_none, decide_eq_true_eq,
    List.mem_map, not_exists, not_and]

private theorem get?_of_mem_pairs {m : Assoc κ ν} (nodup : m.keys.Nodup) {k : κ} {v : ν}
    (h : (k, v) ∈ m.pairs) : m.get? k = some v := by
  obtain ⟨pairs⟩ := m
  simp only [keys, get?] at nodup ⊢
  induction pairs with
  | nil => simp at h
  | cons p pairs ih =>
    obtain ⟨fresh, nodup⟩ := List.nodup_cons.mp nodup
    rcases List.mem_cons.mp h with rfl | h
    · simp
    · have other : p.1 ≠ k := by
        rintro rfl
        exact fresh (List.mem_map.mpr ⟨_, h, rfl⟩)
      simp only [List.find?_cons, other, decide_false]
      exact ih nodup h

theorem mem_pairs_of_get? {m : Assoc κ ν} {k : κ} {v : ν} (found : m.get? k = some v) :
    (k, v) ∈ m.pairs := by
  obtain ⟨p, first, value⟩ := Option.map_eq_some_iff.mp found
  have key : p.1 = k := by simpa using List.find?_some first
  have pair : p = (k, v) := Prod.ext key value
  rw [← pair]
  exact List.mem_of_find?_eq_some first

private theorem keys_erase (m : Assoc κ ν) (k : κ) : (m.erase k).keys = m.keys.filter (· ≠ k) := by
  simp only [erase, keys, List.filter_map]
  rfl

private theorem nodup_keys_erase {m : Assoc κ ν} (nodup : m.keys.Nodup) (k : κ) :
    (m.erase k).keys.Nodup := by
  rw [keys_erase]
  exact nodup.filter _

private theorem nodup_keys_put {m : Assoc κ ν} (nodup : m.keys.Nodup) (k : κ) (v : ν) :
    (m.put k v).keys.Nodup := by
  refine List.nodup_cons.mpr ⟨?_, nodup_keys_erase nodup k⟩
  intro member
  change k ∈ (m.erase k).keys at member
  rw [keys_erase] at member
  simp at member

private theorem length_erase {m : Assoc κ ν} (nodup : m.keys.Nodup) {k : κ} (h : k ∈ m.keys) :
    (m.erase k).pairs.length + 1 = m.pairs.length := by
  have once : m.keys.count k = 1 := List.count_eq_one_of_mem nodup h
  have split := List.length_eq_countP_add_countP (· = k) (l := m.keys)
  have rest : (m.erase k).keys.length = m.keys.countP (· ≠ k) := by
    rw [keys_erase, List.countP_eq_length_filter]
  simp only [keys, List.length_map] at rest split
  have found : m.keys.countP (· = k) = m.keys.count k := by
    simp only [List.count]
    congr 1
  simp only [keys] at found once
  simp only [ne_eq, decide_not] at rest
  simp only [Bool.not_eq_true, decide_eq_false_iff_not, decide_not] at split
  omega

private theorem size_erase {m : Assoc κ ν} (nodup : m.keys.Nodup) {k : κ} {v : ν}
    (h : m.get? k = some v) : (m.erase k).size + 1 = m.size := by
  apply length_erase nodup
  by_contra absent
  rw [get?_eq_none_iff.mpr absent] at h
  cases h

private theorem size_put_new {m : Assoc κ ν} {k : κ} (v : ν) (h : m.get? k = none) :
    (m.put k v).size = m.size + 1 := by
  have absent := get?_eq_none_iff.mp h
  have same : (m.erase k).pairs = m.pairs := by
    refine List.filter_eq_self.mpr ?_
    intro p hp
    have : p.1 ≠ k := by
      rintro rfl
      exact absent (List.mem_map_of_mem hp)
    simpa using this
  simp only [size, put, same, List.length_cons]

private theorem size_put_old {m : Assoc κ ν} (nodup : m.keys.Nodup) {k : κ} {v w : ν}
    (h : m.get? k = some w) : (m.put k v).size = m.size := by
  have erased := size_erase nodup h
  simp only [size, put, List.length_cons] at erased ⊢
  exact erased

end Assoc

namespace HandleTable

variable {κ ν : Type} {t : HandleTable κ ν} {counter : Nat}

theorem get?_eq_some_iff {h : Handle} {v : ν} :
    t.get? h = some v ↔ ∃ k, t.slots.get? h = some (k, v) := by
  simp [HandleTable.get?, Option.map_eq_some_iff]

theorem get?_eq_none_iff {h : Handle} : t.get? h = none ↔ t.slots.get? h = none := by
  simp [HandleTable.get?]

theorem keyOf?_eq_some_iff {h : Handle} {k : κ} :
    t.keyOf? h = some k ↔ ∃ v, t.slots.get? h = some (k, v) := by
  simp [keyOf?, Option.map_eq_some_iff]

theorem slots_set {h : Handle} {k : κ} {v : ν} (hv : t.slots.get? h = some (k, v)) (w : ν)
    (h' : Handle) :
    (t.set h w).slots.get? h' = if h' = h then some (k, w) else t.slots.get? h' := by
  simp only [set, hv, Assoc.get?_put]

theorem index_set {h : Handle} {k : κ} {v : ν} (hv : t.slots.get? h = some (k, v)) (w : ν) :
    (t.set h w).index = t.index := by
  simp only [set, hv]

variable [DecidableEq κ]

def on? (t : HandleTable κ ν) (k : κ) : Option ν :=
  (t.handleOf? k).bind t.get?

private theorem containsKey_eq_false_iff {k : κ} : t.containsKey k = false ↔ t.index.get? k = none := by
  simp [containsKey, Assoc.contains]

/-- The two views of a table agree, and its handles were drawn before `counter`. -/
structure Sound (t : HandleTable κ ν) (counter : Nat) : Prop where
  slots_nodup : t.slots.keys.Nodup
  index_nodup : t.index.keys.Nodup
  index_iff : ∀ k h, t.index.get? k = some h ↔ ∃ v, t.slots.get? h = some (k, v)
  below : ∀ h p, t.slots.get? h = some p → h.number < counter

theorem sound_empty (counter : Nat) : (∅ : HandleTable κ ν).Sound counter where
  slots_nodup := List.nodup_nil
  index_nodup := List.nodup_nil
  index_iff k h := by
    change (∅ : Assoc κ Handle).get? k = some h ↔ ∃ v, (∅ : Assoc Handle (κ × ν)).get? h = some (k, v)
    simp
  below h p hp := by
    change (∅ : Assoc Handle (κ × ν)).get? h = some p at hp
    simp at hp

namespace Sound

theorem mono (s : t.Sound counter) {later : Nat} (h : counter ≤ later) : t.Sound later where
  slots_nodup := s.slots_nodup
  index_nodup := s.index_nodup
  index_iff := s.index_iff
  below h' p hp := Nat.lt_of_lt_of_le (s.below h' p hp) h

theorem containsKey_iff (s : t.Sound counter) {k : κ} :
    t.containsKey k = true ↔ ∃ h v, t.slots.get? h = some (k, v) := by
  simp only [containsKey, Assoc.contains, Option.isSome_iff_exists, s.index_iff]

theorem handle_unique (s : t.Sound counter) {k : κ} {h h' : Handle} {v v' : ν}
    (hv : t.slots.get? h = some (k, v)) (hv' : t.slots.get? h' = some (k, v')) : h = h' := by
  have one := (s.index_iff k h).mpr ⟨v, hv⟩
  have two := (s.index_iff k h').mpr ⟨v', hv'⟩
  exact Option.some.inj (one.symm.trans two)

theorem on?_eq_some_iff (s : t.Sound counter) {k : κ} {v : ν} :
    t.on? k = some v ↔ ∃ h, t.slots.get? h = some (k, v) := by
  simp only [on?, Option.bind_eq_some_iff, get?_eq_some_iff]
  constructor
  · rintro ⟨h, handle, k', slot⟩
    obtain ⟨w, slot'⟩ := (s.index_iff k h).mp handle
    rw [slot] at slot'
    obtain ⟨rfl, rfl⟩ := Prod.mk.inj (Option.some.inj slot')
    exact ⟨h, slot⟩
  · rintro ⟨h, slot⟩
    exact ⟨h, (s.index_iff k h).mpr ⟨v, slot⟩, k, slot⟩

theorem on?_eq_none_iff (s : t.Sound counter) {k : κ} :
    t.on? k = none ↔ t.containsKey k = false := by
  rw [← Bool.not_eq_true, s.containsKey_iff, Option.eq_none_iff_forall_ne_some]
  constructor
  · rintro none_on ⟨h, v, slot⟩
    exact none_on v (s.on?_eq_some_iff.mpr ⟨h, slot⟩)
  · intro absent v value
    obtain ⟨h, slot⟩ := s.on?_eq_some_iff.mp value
    exact absent ⟨h, v, slot⟩

theorem fresh (s : t.Sound counter) : t.slots.get? ⟨counter⟩ = none := by
  by_contra present
  obtain ⟨p, hp⟩ := Option.ne_none_iff_exists'.mp present
  exact Nat.lt_irrefl _ (s.below _ p hp)

theorem slots_of_mem_entries (s : t.Sound counter) {e : Handle × κ × ν} (member : e ∈ t.entries) :
    t.slots.get? e.1 = some e.2 :=
  Assoc.get?_of_mem_pairs s.slots_nodup ((List.mergeSort_perm _ _).mem_iff.mp member)

theorem mem_entries_iff (s : t.Sound counter) {h : Handle} {k : κ} {v : ν} :
    (h, k, v) ∈ t.entries ↔ t.slots.get? h = some (k, v) := by
  constructor
  · intro member
    exact s.slots_of_mem_entries member
  · intro slot
    have pair : (h, k, v) ∈ t.slots.pairs := Assoc.mem_pairs_of_get? slot
    exact (List.mergeSort_perm _ _).mem_iff.mpr pair

theorem nodup_entries_keys (s : t.Sound counter) : (t.entries.map fun e => e.2.1).Nodup := by
  have pairs : t.entries.Nodup :=
    (List.mergeSort_perm _ _).nodup_iff.mpr (List.Nodup.of_map _ s.slots_nodup)
  refine pairs.map_on fun e he e' he' same => ?_
  obtain ⟨h, k, v⟩ := e
  obtain ⟨h', k', v'⟩ := e'
  obtain rfl : k = k' := same
  have slot : t.slots.get? h = some (k, v) := s.slots_of_mem_entries he
  have slot' : t.slots.get? h' = some (k, v') := s.slots_of_mem_entries he'
  obtain rfl := s.handle_unique slot slot'
  rw [slot] at slot'
  rw [Option.some.inj slot']

end Sound

/-! ### Changing an entry -/

theorem Sound.set (s : t.Sound counter) {h : Handle} {k : κ} {v : ν}
    (hv : t.slots.get? h = some (k, v)) (w : ν) : (t.set h w).Sound counter where
  slots_nodup := by
    simp only [HandleTable.set, hv]
    exact Assoc.nodup_keys_put s.slots_nodup _ _
  index_nodup := by
    rw [index_set hv]
    exact s.index_nodup
  index_iff k' h' := by
    rw [index_set hv, s.index_iff]
    simp only [slots_set hv]
    split
    · next e =>
      subst e
      simp [hv]
    · rfl
  below h' p hp := by
    rw [slots_set hv] at hp
    split at hp
    · next e =>
      subst e
      exact s.below _ _ hv
    · exact s.below _ _ hp

theorem Sound.size_set (s : t.Sound counter) {h : Handle} {k : κ} {v : ν}
    (hv : t.slots.get? h = some (k, v)) (w : ν) : (t.set h w).size = t.size := by
  simp only [size, HandleTable.set, hv]
  exact Assoc.size_put_old s.slots_nodup hv

theorem Sound.on?_set (s : t.Sound counter) {h : Handle} {k : κ} {v : ν}
    (hv : t.slots.get? h = some (k, v)) (w : ν) (k' : κ) :
    (t.set h w).on? k' = if k' = k then some w else t.on? k' := by
  ext w'
  rw [(s.set hv w).on?_eq_some_iff]
  simp only [slots_set hv]
  by_cases hk : k' = k
  · subst hk
    rw [if_pos rfl]
    constructor
    · rintro ⟨h', hw⟩
      split at hw
      · obtain ⟨_, rfl⟩ := Prod.mk.inj (Option.some.inj hw)
        rfl
      · next other => exact absurd (s.handle_unique hw hv) other
    · rintro ⟨⟩
      exact ⟨h, if_pos rfl⟩
  · rw [if_neg hk, s.on?_eq_some_iff]
    refine exists_congr fun h' => ?_
    split
    · next same =>
      subst same
      have differs : ¬ k = k' := fun e => hk e.symm
      simp [hv, differs]
    · rfl

/-! ### Entering -/

def entered (t : HandleTable κ ν) (h : Handle) (k : κ) (v : ν) : HandleTable κ ν :=
  ⟨t.slots.put h (k, v), t.index.put k h⟩

theorem insert?_of_free {k : κ} (free : t.containsKey k = false) (v : ν) :
    t.insert? counter k v = some (⟨counter⟩, t.entered ⟨counter⟩ k v, counter + 1) := by
  simp [insert?, free, entered]

theorem slots_entered (h : Handle) (k : κ) (v : ν) (h' : Handle) :
    (t.entered h k v).slots.get? h' = if h' = h then some (k, v) else t.slots.get? h' := by
  simp only [entered, Assoc.get?_put]

theorem Sound.entered (s : t.Sound counter) {k : κ} (free : t.containsKey k = false) (v : ν) :
    (t.entered ⟨counter⟩ k v).Sound (counter + 1) where
  slots_nodup := Assoc.nodup_keys_put s.slots_nodup _ _
  index_nodup := Assoc.nodup_keys_put s.index_nodup _ _
  index_iff k' h' := by
    have unused : t.index.get? k = none := containsKey_eq_false_iff.mp free
    have absent : ∀ h w, t.slots.get? h ≠ some (k, w) := fun h w hw => by
      have live := (s.index_iff k h).mpr ⟨w, hw⟩
      rw [unused] at live
      cases live
    have none_fresh := s.fresh
    have old := s.index_iff k' h'
    simp only [slots_entered]
    simp only [HandleTable.entered, Assoc.get?_put]
    by_cases hk : k' = k
    · subst hk
      by_cases hh : h' = ⟨counter⟩
      · simp [hh]
      · have other : ¬ (⟨counter⟩ : Handle) = h' := fun e => hh e.symm
        simp [hh, other, absent]
    · by_cases hh : h' = ⟨counter⟩
      · subst hh
        have differs : ¬ k = k' := fun e => hk e.symm
        rw [none_fresh] at old
        simp only [hk, if_false, old, if_true, Option.some.injEq, Prod.mk.injEq, differs,
          false_and, exists_false, reduceCtorEq]
      · simpa [hk, hh] using old
  below h' p hp := by
    rw [slots_entered] at hp
    split at hp
    · next e =>
      subst e
      exact Nat.lt_succ_self _
    · exact Nat.lt_succ_of_lt (s.below _ _ hp)

theorem Sound.size_entered (s : t.Sound counter) (k : κ) (v : ν) :
    (t.entered ⟨counter⟩ k v).size = t.size + 1 :=
  Assoc.size_put_new _ s.fresh

theorem Sound.on?_entered (s : t.Sound counter) {k : κ} (free : t.containsKey k = false) (v : ν)
    (k' : κ) : (t.entered ⟨counter⟩ k v).on? k' = if k' = k then some v else t.on? k' := by
  ext w
  rw [(s.entered free v).on?_eq_some_iff]
  simp only [slots_entered]
  by_cases hk : k' = k
  · subst hk
    rw [if_pos rfl]
    constructor
    · rintro ⟨h', hw⟩
      split at hw
      · obtain ⟨_, rfl⟩ := Prod.mk.inj (Option.some.inj hw)
        rfl
      · rw [s.containsKey_iff.mpr ⟨h', w, hw⟩] at free
        cases free
    · rintro ⟨⟩
      exact ⟨⟨counter⟩, if_pos rfl⟩
  · rw [if_neg hk, s.on?_eq_some_iff]
    refine exists_congr fun h' => ?_
    split
    · next same =>
      subst same
      have differs : ¬ k = k' := fun e => hk e.symm
      simp [s.fresh, differs]
    · rfl

/-! ### Taking out -/

def without (t : HandleTable κ ν) (h : Handle) (k : κ) : HandleTable κ ν :=
  ⟨t.slots.erase h, t.index.erase k⟩

theorem remove?_of_some {h : Handle} {k : κ} {v : ν} (hv : t.slots.get? h = some (k, v)) :
    t.remove? h = some ((k, v), t.without h k) := by
  simp [remove?, hv, without]

theorem slots_without (h : Handle) (k : κ) (h' : Handle) :
    (t.without h k).slots.get? h' = if h' = h then none else t.slots.get? h' := by
  simp only [without, Assoc.get?_erase]

theorem Sound.without (s : t.Sound counter) {h : Handle} {k : κ} {v : ν}
    (hv : t.slots.get? h = some (k, v)) : (t.without h k).Sound counter where
  slots_nodup := Assoc.nodup_keys_erase s.slots_nodup _
  index_nodup := Assoc.nodup_keys_erase s.index_nodup _
  index_iff k' h' := by
    have old := s.index_iff k' h'
    simp only [slots_without]
    simp only [HandleTable.without, Assoc.get?_erase]
    by_cases hk : k' = k
    · subst hk
      by_cases hh : h' = h
      · simp [hh]
      · have absent : ∀ w, t.slots.get? h' ≠ some (k', w) :=
          fun w hw => hh (s.handle_unique hw hv)
        simp [hh, absent]
    · by_cases hh : h' = h
      · subst hh
        have differs : ¬ k = k' := fun e => hk e.symm
        rw [hv] at old
        simp [hk, old, differs]
      · simpa [hk, hh] using old
  below h' p hp := by
    rw [slots_without] at hp
    split at hp
    · cases hp
    · exact s.below _ _ hp

theorem Sound.on?_without (s : t.Sound counter) {h : Handle} {k : κ} {v : ν}
    (hv : t.slots.get? h = some (k, v)) (k' : κ) :
    (t.without h k).on? k' = if k' = k then none else t.on? k' := by
  ext w
  rw [(s.without hv).on?_eq_some_iff]
  simp only [slots_without]
  by_cases hk : k' = k
  · subst hk
    rw [if_pos rfl]
    constructor
    · rintro ⟨h', hw⟩
      split at hw
      · cases hw
      · next other => exact absurd (s.handle_unique hw hv) other
    · intro hw
      cases hw
  · rw [if_neg hk, s.on?_eq_some_iff]
    refine exists_congr fun h' => ?_
    split
    · next same =>
      subst same
      have differs : ¬ k = k' := fun e => hk e.symm
      simp [hv, differs]
    · rfl

theorem Sound.size_without (s : t.Sound counter) {h : Handle} {k : κ} {v : ν}
    (hv : t.slots.get? h = some (k, v)) : (t.without h k).size + 1 = t.size :=
  Assoc.size_erase s.slots_nodup hv

end HandleTable

end Peripherals

import Mathlib.Data.List.Perm.Basic
import Peripherals.Proofs.HandleTable
/-!
Runs of a table of live resources. The history of a table, its operations with the replies to them,
tells for every handle which entry stands under it. Main statement: after every run both views of the
table are views of this map, and the next operation treats it as a map.
-/

set_option autoImplicit false

namespace Peripherals

namespace HandleTable

variable {κ ν : Type} [DecidableEq κ]

/-! ### Entries in any order -/

/-- The first entry, in some order of the entries, that satisfies a test. -/
def findIn (order : List (Handle × κ × ν)) (p : κ → ν → Bool) : Option Handle :=
  (order.find? fun e => p e.2.1 e.2.2).map (·.1)

namespace Sound

variable {t : HandleTable κ ν} {counter : Nat}

private theorem mem_handles_iff (s : t.Sound counter) {h : Handle} :
    h ∈ t.handles ↔ ∃ p, t.slots.get? h = some p := by
  constructor
  · intro member
    obtain ⟨⟨_, k, v⟩, entry, rfl⟩ := List.mem_map.mp member
    exact ⟨(k, v), s.slots_of_mem_entries entry⟩
  · rintro ⟨⟨k, v⟩, slot⟩
    exact List.mem_map.mpr ⟨(h, k, v), s.mem_entries_iff.mpr slot, rfl⟩

private theorem nodup_handles (s : t.Sound counter) : t.handles.Nodup := by
  have same : t.handles.Perm t.slots.keys := (List.mergeSort_perm _ _).map _
  exact same.nodup_iff.mpr s.slots_nodup

omit [DecidableEq κ] in
theorem length_entries (t : HandleTable κ ν) : t.entries.length = t.size :=
  List.length_mergeSort _

theorem mem_index_keys_iff {k : κ} : k ∈ t.index.keys ↔ t.containsKey k = true := by
  rw [containsKey, Assoc.contains, Option.isSome_iff_ne_none, ne_eq, Assoc.get?_eq_none_iff,
    Classical.not_not]

theorem length_index_keys (s : t.Sound counter) : t.index.keys.length = t.size := by
  have same : t.index.keys.Perm (t.entries.map fun e => e.2.1) := by
    refine (List.perm_ext_iff_of_nodup s.index_nodup s.nodup_entries_keys).mpr fun k => ?_
    rw [mem_index_keys_iff, s.containsKey_iff]
    constructor
    · rintro ⟨h, v, slot⟩
      exact List.mem_map.mpr ⟨(h, k, v), s.mem_entries_iff.mpr slot, rfl⟩
    · intro member
      obtain ⟨⟨h, _, v⟩, entry, rfl⟩ := List.mem_map.mp member
      exact ⟨h, v, s.slots_of_mem_entries entry⟩
  have lengths := same.length_eq
  rw [List.length_map, length_entries] at lengths
  exact lengths

private theorem findIn_some (s : t.Sound counter) {order : List (Handle × κ × ν)}
    (perm : order.Perm t.entries) {p : κ → ν → Bool} {h : Handle}
    (found : findIn order p = some h) :
    ∃ k v, t.slots.get? h = some (k, v) ∧ p k v = true := by
  obtain ⟨⟨_, k, v⟩, first, rfl⟩ := Option.map_eq_some_iff.mp found
  have member := perm.mem_iff.mp (List.mem_of_find?_eq_some first)
  have passes := List.find?_some first
  exact ⟨k, v, s.mem_entries_iff.mp member, passes⟩

private theorem findIn_none_iff (s : t.Sound counter) {order : List (Handle × κ × ν)}
    (perm : order.Perm t.entries) {p : κ → ν → Bool} :
    findIn order p = none ↔ ∀ h k v, t.slots.get? h = some (k, v) → p k v = false := by
  rw [findIn, Option.map_eq_none_iff, List.find?_eq_none]
  constructor
  · intro fails h k v slot
    have member := perm.mem_iff.mpr (s.mem_entries_iff.mpr slot)
    exact Bool.eq_false_iff.mpr (fails _ member)
  · rintro fails ⟨h, k, v⟩ member passes
    have slot := s.mem_entries_iff.mp (perm.mem_iff.mp member)
    rw [fails h k v slot] at passes
    cases passes

private theorem nodup_words (s : t.Sound counter) (fits : counter ≤ UInt64.size) :
    (t.handles.map fun h => UInt64.ofNat h.number).Nodup := by
  refine s.nodup_handles.map_on fun h member h' member' same => ?_
  have small : ∀ h ∈ t.handles, h.number < UInt64.size := by
    intro h member
    obtain ⟨p, slot⟩ := s.mem_handles_iff.mp member
    exact Nat.lt_of_lt_of_le (s.below h p slot) fits
  have numbers := congrArg UInt64.toNat same
  rw [UInt64.toNat_ofNat_of_lt' (small h member),
    UInt64.toNat_ofNat_of_lt' (small h' member')] at numbers
  cases h
  cases h'
  simpa using numbers

end Sound

/-! ### Histories -/

/-- What can be done with a table. In between, other tables draw from the counter. -/
inductive Operation (κ ν : Type) where
  | insert (k : κ) (v : ν)
  | write (h : Handle) (v : ν)
  | remove (h : Handle)
  | drain
  | elsewhere (draws : Nat)

inductive Reply (κ ν : Type) where
  | entered (h : Handle)
  /-- The key is in use, and the value goes back to the caller. -/
  | refused (v : ν)
  | written
  | removed (k : κ) (v : ν)
  | unknown
  | drained (entries : List (Handle × κ × ν))
  | passed

def perform (s : HandleTable κ ν × Nat) :
    Operation κ ν → Reply κ ν × (HandleTable κ ν × Nat)
  | .insert k v =>
    match s.1.insert? s.2 k v with
    | none => (.refused v, s)
    | some (h, t, counter) => (.entered h, (t, counter))
  | .write h v =>
    match s.1.get? h with
    | none => (.unknown, s)
    | some _ => (.written, (s.1.set h v, s.2))
  | .remove h =>
    match s.1.remove? h with
    | none => (.unknown, s)
    | some ((k, v), t) => (.removed k v, (t, s.2))
  | .drain => (.drained s.1.drain.1, (s.1.drain.2, s.2))
  | .elsewhere draws => (.passed, (s.1, s.2 + draws))

abbrev History (κ ν : Type) := List (Operation κ ν × Reply κ ν)

/-- The operations of a run, each with its reply, and the table at the end. -/
def play (s : HandleTable κ ν × Nat) :
    List (Operation κ ν) → History κ ν × (HandleTable κ ν × Nat)
  | [] => ([], s)
  | op :: ops =>
    let (reply, s') := perform s op
    let (history, last) := play s' ops
    ((op, reply) :: history, last)

def entryAfter (h : Handle) (e : Option (κ × ν)) : Operation κ ν × Reply κ ν → Option (κ × ν)
  | (.insert k v, .entered h') => if h = h' then some (k, v) else e
  | (.write h' v, .written) => if h = h' then e.map fun p => (p.1, v) else e
  | (.remove h', .removed _ _) => if h = h' then none else e
  | (.drain, _) => none
  | _ => e

/-- The key and the value last put under a handle, if they are still there. -/
def History.held? (history : History κ ν) (h : Handle) : Option (κ × ν) :=
  history.foldl (entryAfter h) none

/-! ### Steps -/

variable {s : HandleTable κ ν × Nat}

private theorem perform_insert (k : κ) (v : ν) : perform s (.insert k v) =
    match s.1.insert? s.2 k v with
    | none => (.refused v, s)
    | some (h, t, counter) => (.entered h, (t, counter)) := rfl

private theorem perform_write (h : Handle) (v : ν) : perform s (.write h v) =
    match s.1.get? h with
    | none => (.unknown, s)
    | some _ => (.written, (s.1.set h v, s.2)) := rfl

private theorem perform_remove (h : Handle) : perform s (.remove h) =
    match s.1.remove? h with
    | none => (.unknown, s)
    | some ((k, v), t) => (.removed k v, (t, s.2)) := rfl

private theorem perform_insert_taken {k : κ} (taken : s.1.containsKey k = true) (v : ν) :
    perform s (.insert k v) = (.refused v, s) := by
  have refused : s.1.insert? s.2 k v = none := if_pos taken
  rw [perform_insert, refused]

private theorem perform_insert_free {k : κ} (free : s.1.containsKey k = false) (v : ν) :
    perform s (.insert k v) = (.entered ⟨s.2⟩, (s.1.entered ⟨s.2⟩ k v, s.2 + 1)) := by
  rw [perform_insert, insert?_of_free free]

private theorem perform_write_dead {h : Handle} (dead : s.1.slots.get? h = none) (v : ν) :
    perform s (.write h v) = (.unknown, s) := by
  rw [perform_write, get?_eq_none_iff.mpr dead]

private theorem perform_write_live {h : Handle} {k : κ} {w : ν} (live : s.1.slots.get? h = some (k, w))
    (v : ν) : perform s (.write h v) = (.written, (s.1.set h v, s.2)) := by
  have value : s.1.get? h = some w := get?_eq_some_iff.mpr ⟨k, live⟩
  rw [perform_write, value]

private theorem perform_remove_dead {h : Handle} (dead : s.1.slots.get? h = none) :
    perform s (.remove h) = (.unknown, s) := by
  have absent : s.1.remove? h = none := Option.map_eq_none_iff.mpr dead
  rw [perform_remove, absent]

private theorem perform_remove_live {h : Handle} {k : κ} {v : ν}
    (live : s.1.slots.get? h = some (k, v)) :
    perform s (.remove h) = (.removed k v, (s.1.without h k, s.2)) := by
  rw [perform_remove, remove?_of_some live]

private theorem Sound.perform (sound : s.1.Sound s.2) (op : Operation κ ν) :
    (HandleTable.perform s op).2.1.Sound (HandleTable.perform s op).2.2 := by
  cases op with
  | insert k v =>
    cases free : s.1.containsKey k with
    | true =>
      rw [perform_insert_taken free]
      exact sound
    | false =>
      rw [perform_insert_free free]
      exact sound.entered free v
  | write h v =>
    cases slot : s.1.slots.get? h with
    | none =>
      rw [perform_write_dead slot]
      exact sound
    | some p =>
      rw [perform_write_live slot]
      exact sound.set slot v
  | remove h =>
    cases slot : s.1.slots.get? h with
    | none =>
      rw [perform_remove_dead slot]
      exact sound
    | some p =>
      rw [perform_remove_live slot]
      exact sound.without slot
  | drain => exact sound_empty s.2
  | elsewhere draws => exact sound.mono (Nat.le_add_right _ _)

/-- An operation and its reply tell what becomes of every entry. -/
private theorem slots_perform (op : Operation κ ν) (h : Handle) :
    (HandleTable.perform s op).2.1.slots.get? h =
      entryAfter h (s.1.slots.get? h) (op, (HandleTable.perform s op).1) := by
  cases op with
  | insert k v =>
    cases free : s.1.containsKey k with
    | true =>
      rw [perform_insert_taken free]
      rfl
    | false =>
      rw [perform_insert_free free]
      exact slots_entered _ _ _ _
  | write h' v =>
    cases slot : s.1.slots.get? h' with
    | none =>
      rw [perform_write_dead slot]
      rfl
    | some p =>
      rw [perform_write_live slot]
      refine (slots_set slot v h).trans ?_
      simp only [entryAfter]
      split
      · next same =>
        rw [same, slot]
        rfl
      · rfl
  | remove h' =>
    cases slot : s.1.slots.get? h' with
    | none =>
      rw [perform_remove_dead slot]
      rfl
    | some p =>
      rw [perform_remove_live slot]
      exact slots_without _ _ _
  | drain => rfl
  | elsewhere draws => rfl

/-! ### Runs -/

private theorem Sound.play (sound : s.1.Sound s.2) (ops : List (Operation κ ν)) :
    (HandleTable.play s ops).2.1.Sound (HandleTable.play s ops).2.2 := by
  induction ops generalizing s with
  | nil => exact sound
  | cons op ops ih => exact ih (sound.perform op)

private theorem slots_play (ops : List (Operation κ ν)) (h : Handle) :
    (HandleTable.play s ops).2.1.slots.get? h =
      (HandleTable.play s ops).1.foldl (entryAfter h) (s.1.slots.get? h) := by
  induction ops generalizing s with
  | nil => rfl
  | cons op ops ih =>
    have next := ih (s := (HandleTable.perform s op).2)
    rw [slots_perform] at next
    exact next

/-- The two views of a table show the map `m` from handles to keys and values, and every operation
on the table is one on the map. -/
structure Shows (s : HandleTable κ ν × Nat) (m : Handle → Option (κ × ν)) : Prop where
  get : ∀ h, s.1.get? h = (m h).map (·.2)
  keyOf : ∀ h, s.1.keyOf? h = (m h).map (·.1)
  handleOf : ∀ k h, s.1.handleOf? k = some h ↔ s.1.keyOf? h = some k
  containsKey : ∀ k, s.1.containsKey k = true ↔ ∃ h ∈ s.1.handles, s.1.keyOf? h = some k
  handles : s.1.handles.Nodup ∧ s.1.handles.length = s.1.size ∧
    ∀ h, h ∈ s.1.handles ↔ (m h).isSome = true
  keys : s.1.index.keys.Nodup ∧ s.1.index.keys.length = s.1.size ∧
    ∀ k, k ∈ s.1.index.keys ↔ s.1.containsKey k = true
  words : s.2 ≤ UInt64.size → (s.1.handles.map fun h => UInt64.ofNat h.number).Nodup
  /-- A key in use refuses a value and nothing else happens. -/
  refuses : ∀ k v, ((∃ w, (perform s (.insert k v)).1 = .refused w) ↔ s.1.containsKey k = true) ∧
    (s.1.containsKey k = true → perform s (.insert k v) = (.refused v, s))
  /-- A free key takes a value under a handle that no entry has. -/
  enters : ∀ k v, s.1.containsKey k = false → m ⟨s.2⟩ = none ∧
    (perform s (.insert k v)).1 = .entered ⟨s.2⟩ ∧ (perform s (.insert k v)).2.2 = s.2 + 1 ∧
    ∀ k' h, (perform s (.insert k v)).2.1.handleOf? k' = some h ↔
      (k' = k ∧ h = ⟨s.2⟩) ∨ (k' ≠ k ∧ s.1.handleOf? k' = some h)
  writes : ∀ h v, (m h = none → perform s (.write h v) = (.unknown, s)) ∧
    ((m h).isSome = true → (perform s (.write h v)).1 = .written ∧
      (perform s (.write h v)).2.2 = s.2 ∧
      ∀ k, (perform s (.write h v)).2.1.handleOf? k = s.1.handleOf? k)
  /-- Taking an entry out frees its key and no other. -/
  removes : ∀ h, (m h = none → perform s (.remove h) = (.unknown, s)) ∧
    ∀ k v, m h = some (k, v) → (perform s (.remove h)).1 = .removed k v ∧
      (perform s (.remove h)).2.2 = s.2 ∧
      ∀ k', (perform s (.remove h)).2.1.handleOf? k' = if k' = k then none else s.1.handleOf? k'
  finds : ∀ p, s.1.find? p = findIn s.1.entries p ∧ ∀ order, order.Perm s.1.entries →
    (∀ h, findIn order p = some h → ∃ k v, m h = some (k, v) ∧ p k v = true) ∧
      (findIn order p = none ↔ ∀ h k v, m h = some (k, v) → p k v = false)
  /-- Every entry is handed out once, and nothing is left in either view. -/
  drains : ∃ entries, (perform s .drain).1 = .drained entries ∧ (perform s .drain).2.2 = s.2 ∧
    (entries.map (·.1)).Nodup ∧ (∀ h k v, (h, k, v) ∈ entries ↔ m h = some (k, v)) ∧
    (∀ k, (perform s .drain).2.1.handleOf? k = none) ∧
    ∀ h, (perform s .drain).2.1.get? h = none ∧ (perform s .drain).2.1.keyOf? h = none

/-- A sound table shows the entries under its handles. -/
private theorem Sound.shows (sound : s.1.Sound s.2) : Shows s s.1.slots.get? where
  get _ := rfl
  keyOf _ := rfl
  handleOf k h := (sound.index_iff k h).trans keyOf?_eq_some_iff.symm
  containsKey k := by
    rw [sound.containsKey_iff]
    constructor
    · rintro ⟨h, v, slot⟩
      exact ⟨h, sound.mem_handles_iff.mpr ⟨_, slot⟩, keyOf?_eq_some_iff.mpr ⟨v, slot⟩⟩
    · rintro ⟨h, _, key⟩
      obtain ⟨v, slot⟩ := keyOf?_eq_some_iff.mp key
      exact ⟨h, v, slot⟩
  handles := by
    refine ⟨sound.nodup_handles, ?_, fun h => ?_⟩
    · exact (List.length_map _).trans (length_entries s.1)
    · rw [sound.mem_handles_iff, Option.isSome_iff_exists]
  keys := ⟨sound.index_nodup, sound.length_index_keys, fun _ => mem_index_keys_iff⟩
  words := sound.nodup_words
  refuses k v := by
    cases taken : s.1.containsKey k with
    | true =>
      have refused := perform_insert_taken taken v
      refine ⟨⟨fun _ => rfl, fun _ => ⟨v, by rw [refused]⟩⟩, fun _ => refused⟩
    | false =>
      rw [perform_insert_free taken]
      simp
  enters k v free := by
    rw [perform_insert_free free]
    refine ⟨sound.fresh, rfl, rfl, fun k' h => ?_⟩
    change (s.1.index.put k ⟨s.2⟩).get? k' = some h ↔ _
    rw [Assoc.get?_put]
    by_cases same : k' = k
    · simp [same, eq_comm]
    · simp [same, handleOf?]
  writes h v := by
    constructor
    · intro dead
      exact perform_write_dead dead v
    · intro live
      obtain ⟨⟨k, w⟩, slot⟩ := Option.isSome_iff_exists.mp live
      rw [perform_write_live slot]
      refine ⟨rfl, rfl, fun k' => ?_⟩
      change (s.1.set h v).index.get? k' = s.1.index.get? k'
      rw [index_set slot]
  removes h := by
    constructor
    · intro dead
      exact perform_remove_dead dead
    · intro k v slot
      rw [perform_remove_live slot]
      exact ⟨rfl, rfl, fun k' => Assoc.get?_erase _ _ _⟩
  finds p := by
    refine ⟨rfl, fun order perm => ⟨fun h found => ?_, ?_⟩⟩
    · exact sound.findIn_some perm found
    · exact sound.findIn_none_iff perm
  drains := by
    refine ⟨s.1.entries, rfl, rfl, sound.nodup_handles, fun h k v => sound.mem_entries_iff, ?_, ?_⟩
    · intro k
      rfl
    · intro h
      exact ⟨rfl, rfl⟩

/-- After every run of insertions, writes, removals and drains, from an empty table and any counter,
with draws of other tables between them, both views show the same finite map: under each handle stands
the key with the value that was last inserted or written there. The next operation is one on that map,
and it answers what the map says. -/
theorem two_views_of_one_map {κ ν : Type} [DecidableEq κ] (counter : Nat)
    (ops : List (Operation κ ν)) :
    let run := play (∅, counter) ops
    Shows run.2 run.1.held? := by
  intro run
  have sound : run.2.1.Sound run.2.2 :=
    Sound.play (s := (∅, counter)) (sound_empty counter) ops
  have history : run.2.1.slots.get? = run.1.held? := by
    funext h
    exact slots_play ops h
  rw [← history]
  exact sound.shows

end HandleTable

end Peripherals

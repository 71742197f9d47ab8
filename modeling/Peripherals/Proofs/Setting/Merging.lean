import Peripherals.Proofs.Lookup
import Peripherals.Proofs.Setting.Names
/-!
Layers of settings, key by key. Main statements: under every key a merge holds what its two layers hold
there, and the settings of an environment hold, under the section and the key of each of its variables,
the value of the variable.
-/

set_option autoImplicit false

namespace Peripherals.Setting

open Variable (Keyed path? read? nest setting? lowered nameFor ownName?)

variable {α : Type}

/-! ### Fields under their keys -/

private theorem lookup_put (k : String) (v : α) (known : List (String × α)) (j : String) :
    (put k v known).lookup j = if j = k then some v else known.lookup j := by
  induction known with
  | nil =>
    by_cases same : j = k
    · simp [put, same]
    · rw [if_neg same]
      exact lookup_cons_of_ne same v []
  | cons f known ih =>
    obtain ⟨i, w⟩ := f
    unfold put
    by_cases here : i = k
    · subst here
      by_cases same : j = i
      · simp [same]
      · rw [if_pos (beq_self_eq_true i), if_neg same, lookup_cons_of_ne same, lookup_cons_of_ne same]
    · rw [if_neg (by simpa using here)]
      by_cases first : j = i
      · simp [first, here]
      · rw [lookup_cons_of_ne first, lookup_cons_of_ne first, ih]

private theorem keys_put (k : String) (v : α) (known : List (String × α)) :
    (put k v known).map Prod.fst =
    if k ∈ known.map Prod.fst then known.map Prod.fst else known.map Prod.fst ++ [k] := by
  induction known with
  | nil => rfl
  | cons f known ih =>
    obtain ⟨i, w⟩ := f
    unfold put
    by_cases here : i = k
    · simp [here]
    · rw [if_neg (by simpa using here), List.map_cons, ih, List.map_cons]
      by_cases behind : k ∈ known.map Prod.fst
      · rw [if_pos behind, if_pos (List.mem_cons_of_mem _ behind)]
      · have absent : k ∉ i :: known.map Prod.fst := by
          rintro (_ | ⟨_, member⟩)
          · exact here rfl
          · exact behind member
        rw [if_neg behind, if_neg absent]
        rfl

private theorem mem_keys_put {i k : String} {v : α} {known : List (String × α)} :
    i ∈ (put k v known).map Prod.fst ↔ i = k ∨ i ∈ known.map Prod.fst := by
  rw [keys_put]
  split
  · next member => exact ⟨.inr, fun given => given.elim (fun same => same ▸ member) id⟩
  · simp [or_comm]

private theorem nodup_keys_put (k : String) (v : α) {known : List (String × α)}
    (nodup : (known.map Prod.fst).Nodup) : ((put k v known).map Prod.fst).Nodup := by
  rw [keys_put]
  split
  · exact nodup
  · next absent => exact List.nodup_append.mpr ⟨nodup, List.nodup_singleton k, fun i member j one => by
      rw [List.mem_singleton.mp one]
      exact fun same => absent (same ▸ member)⟩

def stacked : Option Setting → Option Setting → Option Setting
  | some w, some v => some (merge w v)
  | none, some v => some v
  | earlier, none => earlier

private theorem mergeFields_cons (earlier : List (String × Setting)) (k : String) (v : Setting)
    (later : List (String × Setting)) : ∃ w, stacked (earlier.lookup k) (some v) = some w ∧
      mergeFields earlier ((k, v) :: later) = mergeFields (put k w earlier) later := by
  rw [mergeFields]
  cases earlier.lookup k with
  | none => exact ⟨v, rfl, rfl⟩
  | some w => exact ⟨merge w v, rfl, rfl⟩

theorem lookup_mergeFields {later : List (String × Setting)} (nodup : (later.map Prod.fst).Nodup)
    (earlier : List (String × Setting)) (k : String) :
    (mergeFields earlier later).lookup k = stacked (earlier.lookup k) (later.lookup k) := by
  induction later generalizing earlier with
  | nil =>
    rw [mergeFields]
    cases earlier.lookup k <;> rfl
  | cons f later ih =>
    obtain ⟨j, v⟩ := f
    obtain ⟨absent, nodup⟩ := List.nodup_cons.mp nodup
    obtain ⟨w, both, merged⟩ := mergeFields_cons earlier j v later
    rw [merged, ih nodup, lookup_put]
    by_cases same : k = j
    · subst same
      rw [if_pos rfl, lookup_fresh absent, List.lookup_cons_self, both]
      rfl
    · rw [if_neg same, lookup_cons_of_ne same]

private theorem lookup_mergeFields_one (earlier : List (String × Setting)) (k : String)
    (v : Setting) (j : String) :
    (mergeFields earlier [(k, v)]).lookup j =
      stacked (earlier.lookup j) (if j = k then some v else none) := by
  rw [lookup_mergeFields (by simp), show [(k, v)].lookup j = _ from lookup_put k v [] j]
  rfl

private theorem nodup_keys_mergeFields {earlier : List (String × Setting)}
    (nodup : (earlier.map Prod.fst).Nodup) (later : List (String × Setting)) :
    ((mergeFields earlier later).map Prod.fst).Nodup := by
  induction later generalizing earlier with
  | nil => exact nodup
  | cons f later ih =>
    obtain ⟨w, -, merged⟩ := mergeFields_cons earlier f.1 f.2 later
    rw [merged]
    exact ih (nodup_keys_put _ _ nodup)

/-! ### Variables of an environment -/

private theorem mem_of_mem_put {k : String} {v : α} {known : List (String × α)} {p : String × α}
    (member : p ∈ put k v known) : p = (k, v) ∨ p ∈ known := by
  induction known with
  | nil => simpa [put] using member
  | cons f known ih =>
    obtain ⟨j, w⟩ := f
    unfold put at member
    split at member
    · rcases List.mem_cons.mp member with here | behind
      · exact .inl here
      · exact .inr (List.mem_cons_of_mem _ behind)
    · rcases List.mem_cons.mp member with here | behind
      · exact .inr (here ▸ List.mem_cons_self)
      · exact (ih behind).imp_right (List.mem_cons_of_mem _)

theorem mem_of_mem_assign {vars : List (String × String)} {p : String × String}
    (member : p ∈ assign vars) : p ∈ vars := by
  refine List.foldlRecOn (motive := fun known => p ∈ known → p ∈ vars) vars _
    (fun nothing => absurd nothing List.not_mem_nil) ?_ member
  intro known early x given member
  rcases mem_of_mem_put member with rfl | member
  · exact given
  · exact early member

private theorem nodup_assign (vars : List (String × String)) : ((assign vars).map Prod.fst).Nodup :=
  List.foldlRecOn (motive := fun known : List _ => (known.map Prod.fst).Nodup) vars _ List.nodup_nil
    fun _ nodup x _ => nodup_keys_put x.1 x.2 nodup

private theorem mem_keys_assign {vars : List (String × String)} {x : String × String}
    (member : x ∈ vars) :
    x.1 ∈ (assign vars).map Prod.fst := by
  have all (vars : List (String × String)) : ∀ known : List (String × String),
      x.1 ∈ known.map Prod.fst ∨ x ∈ vars →
      x.1 ∈ (vars.foldl (fun known x => put x.1 x.2 known) known).map Prod.fst := by
    induction vars with
    | nil => exact fun _ given => given.resolve_right List.not_mem_nil
    | cons y vars ih =>
      intro known given
      refine ih _ ?_
      rw [mem_keys_put]
      rcases given with early | late
      · exact .inl (.inr early)
      · rcases List.mem_cons.mp late with rfl | late
        · exact .inl (.inl rfl)
        · exact .inr late
  exact all vars [] (.inr member)

/-- Variables that are not ours, or join a section and a key, with names that differ in more than their
case. -/
structure Orderly (vars : List (String × String)) : Prop where
  keyed : ∀ x ∈ vars, ownName? x.1 = none ∨ Keyed x.1
  apart : ∀ x ∈ vars, ∀ y ∈ vars, Keyed x.1 → lowered x.1 = lowered y.1 → x = y

def textAt? (vars : List (String × String)) (path : List String) : Option String :=
  (vars.find? fun x => path? x.1 == some path).map Prod.snd

namespace Orderly

variable {vars : List (String × String)} (orderly : Orderly vars)
include orderly

private theorem keyed_of_path {x : String × String} (member : x ∈ vars) {path : List String}
    (sets : path? x.1 = some path) : Keyed x.1 := by
  refine (orderly.keyed x member).resolve_left fun foreign => ?_
  simp [path?, foreign] at sets

theorem path_cases {x : String × String} (member : x ∈ vars) {path : List String}
    (sets : path? x.1 = some path) : ∃ sec key : String, path = [sec, key] ∧
      lowered x.1 = nameFor sec.toList key.toList := by
  rcases (orderly.keyed_of_path member sets).path?_cases with nothing | ⟨sec, key, two, named⟩
  · cases nothing.symm.trans sets
  · exact ⟨sec, key, Option.some.inj (sets.symm.trans two), named⟩

private theorem eq_of_path {x y : String × String} (hx : x ∈ vars) (hy : y ∈ vars) {path : List String}
    (sets : path? x.1 = some path) (sets' : path? y.1 = some path) : x = y := by
  obtain ⟨sec, key, rfl, named⟩ := orderly.path_cases hx sets
  obtain ⟨sec', key', same, named'⟩ := orderly.path_cases hy sets'
  cases same
  exact orderly.apart x hx y hy (orderly.keyed_of_path hx sets) (named.trans named'.symm)

theorem textAt?_eq_some_iff {path : List String} {text : String} :
    textAt? vars path = some text ↔ ∃ x ∈ vars, path? x.1 = some path ∧ x.2 = text := by
  constructor
  · intro found
    obtain ⟨x, hit, text⟩ := Option.map_eq_some_iff.mp found
    exact ⟨x, List.mem_of_find?_eq_some hit, by simpa using List.find?_some hit, text⟩
  · rintro ⟨x, member, sets, rfl⟩
    obtain ⟨y, hit⟩ : ∃ y, vars.find? (fun x => path? x.1 == some path) = some y :=
      Option.isSome_iff_exists.mp (List.find?_isSome.mpr ⟨x, member, by simpa using sets⟩)
    have sets' : path? y.1 = some path := by simpa using List.find?_some hit
    rw [textAt?, hit, orderly.eq_of_path member (List.mem_of_find?_eq_some hit) sets sets']
    rfl

theorem cons {x : String × String} (keyed : Keyed x.1) (fresh : ∀ y ∈ vars, lowered x.1 ≠ lowered y.1) :
    Orderly (x :: vars) where
  keyed y member := by
    rcases List.mem_cons.mp member with rfl | member
    · exact .inr keyed
    · exact orderly.keyed y member
  apart y hy z hz keyed same := by
    rcases List.mem_cons.mp hy with rfl | old
    · rcases List.mem_cons.mp hz with rfl | old
      · rfl
      · exact absurd same (fresh z old)
    · rcases List.mem_cons.mp hz with rfl | old'
      · exact absurd same.symm (fresh y old)
      · exact orderly.apart y old z old' keyed same

private theorem mem_assign {x : String × String} (member : x ∈ vars) {path : List String}
    (sets : path? x.1 = some path) : x ∈ assign vars := by
  obtain ⟨y, assigned, name⟩ := List.mem_map.mp (mem_keys_assign member)
  have same : x = y := orderly.apart x member y (mem_of_mem_assign assigned)
    (orderly.keyed_of_path member sets) (by rw [name])
  exact same ▸ assigned

private theorem mem_ours_iff {path : List String} {text : String} :
    (path, text) ∈ ours vars ↔ textAt? vars path = some text := by
  rw [orderly.textAt?_eq_some_iff, ours, List.mem_filterMap]
  constructor
  · rintro ⟨x, member, eq⟩
    obtain ⟨p, sets, same⟩ := Option.map_eq_some_iff.mp eq
    cases same
    exact ⟨x, mem_of_mem_assign member, sets, rfl⟩
  · rintro ⟨x, member, sets, rfl⟩
    exact ⟨x, orderly.mem_assign member sets, by rw [sets]; rfl⟩

private theorem nodup_ours : ((ours vars).map Prod.fst).Nodup := by
  rw [List.nodup_iff_pairwise_ne, List.pairwise_map, ours, List.pairwise_filterMap]
  have names := List.pairwise_map.mp (nodup_assign vars)
  refine names.imp_of_mem fun {x y} hx hy differs p hp q hq same => differs ?_
  obtain ⟨a, setsX, rfl⟩ := Option.map_eq_some_iff.mp hp
  obtain ⟨b, setsY, rfl⟩ := Option.map_eq_some_iff.mp hq
  have together : a = b := same
  subst together
  rw [orderly.eq_of_path (mem_of_mem_assign hx) (mem_of_mem_assign hy) setsX setsY]

end Orderly

/-! ### Settings of an environment -/

/-- The fields are groups from the environment that hold this under a section and a key. -/
structure Holds (fields : List (String × Setting)) (view : String → String → Option Setting) : Prop where
  nodup : (fields.map Prod.fst).Nodup
  untouched : ∀ sec, fields.lookup sec = none → ∀ key, view sec key = none
  touched : ∀ sec part, fields.lookup sec = some part → (∃ key, (view sec key).isSome) ∧
    ∃ inner, part = .group .environment inner ∧ (inner.map Prod.fst).Nodup ∧
      ∀ key, inner.lookup key = view sec key

namespace Holds

variable {fields : List (String × Setting)} {view : String → String → Option Setting}

private theorem nil : Holds [] fun _ _ => none where
  nodup := List.nodup_nil
  untouched _ _ _ := rfl
  touched _ _ found := nomatch found

/-- A value under a key of a section that was free. -/
private theorem insert (holds : Holds fields view) {a b : String} (free : view a b = none)
    (v : Setting) :
    Holds (mergeFields fields [(a, .group .environment [(b, v)])])
      fun sec key => if sec = a ∧ key = b then some v else view sec key := by
  have found := lookup_mergeFields_one fields a (.group .environment [(b, v)])
  refine ⟨nodup_keys_mergeFields holds.nodup _, fun sec none key => ?_, fun sec part given => ?_⟩
  · rw [found] at none
    by_cases here : sec = a
    · rw [if_pos here] at none
      cases earlier : fields.lookup sec <;> rw [earlier] at none <;> cases none
    · rw [if_neg here] at none
      rw [if_neg fun both => here both.1]
      refine holds.untouched sec ?_ key
      cases earlier : fields.lookup sec
      · rfl
      · rw [earlier] at none
        cases none
  · rw [found] at given
    by_cases here : sec = a
    · subst here
      rw [if_pos rfl] at given
      refine ⟨⟨b, by simp⟩, ?_⟩
      cases earlier : fields.lookup sec with
      | none =>
        rw [earlier] at given
        refine ⟨[(b, v)], (Option.some.inj given).symm, List.nodup_singleton b, fun key => ?_⟩
        rw [show [(b, v)].lookup key = _ from lookup_put b v [] key, holds.untouched sec earlier key]
        simp
      | some w =>
        obtain ⟨-, inner, rfl, nodup, parts⟩ := holds.touched sec w earlier
        rw [earlier] at given
        refine ⟨mergeFields inner [(b, v)], (Option.some.inj given).symm,
          nodup_keys_mergeFields nodup _, fun key => ?_⟩
        rw [lookup_mergeFields_one, parts]
        by_cases same : key = b
        · subst same
          simp [free, stacked]
        · simp only [same, if_false, and_false]
          cases view sec key <;> rfl
    · rw [if_neg here] at given
      have earlier : fields.lookup sec = some part := by
        cases earlier : fields.lookup sec <;> rw [earlier] at given <;> exact given
      simp only [here, false_and, if_false]
      exact holds.touched sec part earlier

/-- Values under keys that were free and differ, one after the other. -/
private theorem foldl {entries : List (List String × Setting)} (holds : Holds fields view)
    (two : ∀ e ∈ entries, ∃ sec key, e.1 = [sec, key]) (nodup : (entries.map Prod.fst).Nodup)
    (free : ∀ e ∈ entries, ∀ sec key, e.1 = [sec, key] → view sec key = none) : ∃ fields',
      (entries.map fun e => nest e.2 e.1).foldl merge (.group .environment fields) =
        .group .environment fields' ∧
      Holds fields' fun sec key => (entries.lookup [sec, key]).or (view sec key) := by
  induction entries generalizing fields view with
  | nil => exact ⟨fields, rfl, holds⟩
  | cons e entries ih =>
    obtain ⟨path, v⟩ := e
    obtain ⟨sec, key, rfl⟩ : ∃ sec key, path = [sec, key] := two _ List.mem_cons_self
    obtain ⟨absent, nodup⟩ := List.nodup_cons.mp nodup
    have inserted := holds.insert (free _ List.mem_cons_self sec key rfl) v
    obtain ⟨fields', run, after⟩ := ih inserted (fun e member => two e (List.mem_cons_of_mem _ member))
      nodup fun e member a b path => by
        have other : ¬ (a = sec ∧ b = key) := by
          rintro ⟨rfl, rfl⟩
          exact absent (List.mem_map.mpr ⟨e, member, path⟩)
        rw [if_neg other]
        exact free e (List.mem_cons_of_mem _ member) a b path
    refine ⟨fields', run, ?_⟩
    have same : (fun a b => (entries.lookup [a, b]).or
        (if a = sec ∧ b = key then some v else view a b)) =
        fun a b => ((([sec, key], v) :: entries).lookup [a, b]).or (view a b) := by
      funext a b
      by_cases here : a = sec ∧ b = key
      · obtain ⟨rfl, rfl⟩ := here
        simp [lookup_fresh absent]
      · have other : [a, b] ≠ [sec, key] := by simpa using here
        rw [if_neg here, lookup_cons_of_ne other]
    exact same ▸ after

end Holds

private theorem mapM_setting? {L : List (List String × String)}
    (readable : ∀ x ∈ L, (read? x.2).isSome) :
    ∃ entries : List (List String × Setting),
      L.mapM (fun x => setting? x.1 x.2) = some (entries.map fun e => nest e.2 e.1) ∧
      entries.map Prod.fst = L.map Prod.fst ∧
      ∀ path, entries.lookup path = (L.lookup path).bind read? := by
  induction L with
  | nil => exact ⟨[], rfl, rfl, fun _ => rfl⟩
  | cons x L ih =>
    obtain ⟨path, text⟩ := x
    obtain ⟨v, read⟩ := Option.isSome_iff_exists.mp (readable _ List.mem_cons_self)
    obtain ⟨entries, rest, paths, parts⟩ := ih fun x member => readable x (List.mem_cons_of_mem _ member)
    have first : setting? path text = some (nest v path) := by
      simp only at read
      simp [setting?, read]
    refine ⟨(path, v) :: entries, by simp [List.mapM_cons, first, rest], by simp [paths], fun p => ?_⟩
    rw [List.lookup_cons, List.lookup_cons]
    cases p == path with
    | true => exact read.symm
    | false => exact parts p

private theorem read?_of_mapM {L : List (List String × String)} {settings : List Setting}
    (made : L.mapM (fun x => setting? x.1 x.2) = some settings) {x : List String × String} (member : x ∈ L) :
    (read? x.2).isSome := by
  induction L generalizing settings with
  | nil => cases member
  | cons y L ih =>
    simp only [List.mapM_cons, Option.bind_eq_bind, Option.bind_eq_some_iff] at made
    obtain ⟨v, first, rest, made, -⟩ := made
    rcases List.mem_cons.mp member with rfl | member
    · obtain ⟨w, read, -⟩ := Option.map_eq_some_iff.mp first
      exact read ▸ rfl
    · exact ih made member

/-- No variable holds a text that is cut inside a character. -/
def Readable (vars : List (String × String)) : Prop :=
  ∀ path text, textAt? vars path = some text → (read? text).isSome

def valueAt? (vars : List (String × String)) (sec key : String) : Option Setting :=
  (textAt? vars [sec, key]).bind read?

section

variable {vars : List (String × String)} (orderly : Orderly vars)
include orderly

private theorem lookup_ours (path : List String) : (ours vars).lookup path = textAt? vars path := by
  refine Option.ext fun text => ?_
  rw [← orderly.mem_ours_iff]
  exact ⟨mem_of_lookup, lookup_of_mem orderly.nodup_ours⟩

/-- The settings of an environment hold the value of each variable under its section and its key. -/
theorem ofEnvironment?_readable (readable : Readable vars) : ∃ fields,
    ofEnvironment? vars = some (.group .environment fields) ∧ Holds fields (valueAt? vars) := by
  obtain ⟨entries, made, paths, parts⟩ := mapM_setting? (L := ours vars) fun x member =>
    readable x.1 x.2 (orderly.mem_ours_iff.mp member)
  have two : ∀ e ∈ entries, ∃ sec key, e.1 = [sec, key] := by
    intro e member
    have path : e.1 ∈ (ours vars).map Prod.fst := paths ▸ List.mem_map_of_mem member
    obtain ⟨x, ownX, same⟩ := List.mem_map.mp path
    obtain ⟨y, known, sets, -⟩ := orderly.textAt?_eq_some_iff.mp (orderly.mem_ours_iff.mp ownX)
    obtain ⟨sec, key, eq, -⟩ := orderly.path_cases known sets
    exact ⟨sec, key, same.symm.trans eq⟩
  obtain ⟨fields, run, holds⟩ := Holds.nil.foldl two (paths ▸ orderly.nodup_ours) fun _ _ _ _ _ => rfl
  have view : (fun sec key => (entries.lookup [sec, key]).or none) = valueAt? vars := by
    funext sec key
    rw [Option.or_none, parts, lookup_ours orderly]
    rfl
  refine ⟨fields, ?_, view ▸ holds⟩
  simp only [ofEnvironment?, made]
  exact congrArg some run

theorem readable_of_ofEnvironment? {s : Setting} (made : ofEnvironment? vars = some s) :
    Readable vars := by
  intro path text found
  simp only [ofEnvironment?, Option.bind_eq_bind, Option.bind_eq_some_iff] at made
  obtain ⟨settings, made, -⟩ := made
  exact read?_of_mapM made (orderly.mem_ours_iff.mpr found)

end

end Peripherals.Setting

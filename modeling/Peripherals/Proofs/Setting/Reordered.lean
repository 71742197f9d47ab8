import Mathlib.Data.Option.Basic
import Peripherals.Proofs.Setting.Plain
/-!
Documents that differ in the order of their tables and keys. Main statement: they become settings that
hold the same values under the same keys.
-/

set_option autoImplicit false

namespace Peripherals

namespace Toml

mutual

/-- The same values under the same keys, whatever the order of the keys. -/
inductive Reordered : Toml → Toml → Prop
  | same (d : Toml) : Reordered d d
  | table {fields fields' : List (String × Toml)} (fieldwise : FieldsReordered fields fields') :
    Reordered (.table fields) (.table fields')
  | array {items items' : List Toml} (itemwise : ItemsReordered items items') :
    Reordered (.array items) (.array items')

inductive FieldsReordered : List (String × Toml) → List (String × Toml) → Prop
  | nil : FieldsReordered [] []
  | cons {k : String} {d d' : Toml} {fields fields' : List (String × Toml)} (first : Reordered d d')
    (rest : FieldsReordered fields fields') : FieldsReordered ((k, d) :: fields) ((k, d') :: fields')
  | swap {j k : String} (differ : j ≠ k) (d e : Toml) (fields : List (String × Toml)) :
    FieldsReordered ((j, d) :: (k, e) :: fields) ((k, e) :: (j, d) :: fields)
  | trans {a b c : List (String × Toml)} (first : FieldsReordered a b) (second : FieldsReordered b c) :
    FieldsReordered a c

inductive ItemsReordered : List Toml → List Toml → Prop
  | nil : ItemsReordered [] []
  | cons {d d' : Toml} {items items' : List Toml} (first : Reordered d d')
    (rest : ItemsReordered items items') : ItemsReordered (d :: items) (d' :: items')

end

mutual

private theorem Reordered.trans {a b c : Toml} : Reordered a b → Reordered b c → Reordered a c
  | .same _, second => second
  | .table first, .same _ => .table first
  | .table first, .table second => .table (.trans first second)
  | .array first, .same _ => .array first
  | .array first, .array second => .array (first.trans second)

private theorem ItemsReordered.trans {a b c : List Toml} : ItemsReordered a b → ItemsReordered b c →
    ItemsReordered a c
  | .nil, second => second
  | .cons first rest, .cons first' rest' => .cons (first.trans first') (rest.trans rest')

end

private theorem lookup_swap {j k : String} (differ : j ≠ k) (d e : Toml) (fields : List (String × Toml))
    (key : String) : ((j, d) :: (k, e) :: fields).lookup key = ((k, e) :: (j, d) :: fields).lookup key := by
  by_cases here : key = j
  · subst here
    rw [List.lookup_cons_self, lookup_cons_of_ne differ, List.lookup_cons_self]
  · rw [lookup_cons_of_ne here, List.lookup_cons, List.lookup_cons, lookup_cons_of_ne here]

/-- Under every key stands the same, up to order. -/
theorem FieldsReordered.lookup {fields fields' : List (String × Toml)} :
    FieldsReordered fields fields' → ∀ k, Option.Rel Reordered (fields.lookup k) (fields'.lookup k)
  | .nil, _ => .none
  | .cons (k := j) first rest, k => by
    rw [List.lookup_cons, List.lookup_cons]
    cases k == j with
    | true => exact .some first
    | false => exact rest.lookup k
  | .swap differ d e fields, k => by
    rw [lookup_swap differ]
    generalize List.lookup k _ = found
    cases found with
    | none => exact .none
    | some d => exact .some (.same d)
  | .trans first second, k => by
    have one := first.lookup k
    have two := second.lookup k
    generalize List.lookup k _ = x at one
    generalize List.lookup k _ = y at one two
    generalize List.lookup k _ = z at two
    cases one with
    | none => exact two
    | some h =>
      cases two with
      | some h' => exact .some (h.trans h')

end Toml

namespace Setting

/-- Both are there or neither is, and one is a value without parts only if the other is the same. -/
structure Matches (s t : Option Setting) : Prop where
  isSome : s.isSome = t.isSome
  scalar : ∀ source x, s = some (.scalar source x) ↔ t = some (.scalar source x)

namespace Matches

theorem refl (s : Option Setting) : Matches s s :=
  ⟨rfl, fun _ _ => Iff.rfl⟩

private theorem trans {s t u : Option Setting} (first : Matches s t)
    (second : Matches t u) : Matches s u :=
  ⟨first.isSome.trans second.isSome, fun source x => (first.scalar source x).trans (second.scalar source x)⟩

end Matches

open Toml (Reordered FieldsReordered ItemsReordered)

variable {source : Source}

private theorem ofTable?_matches {given given' : List (String × Setting)}
    (parts : ∀ k, Matches (given.lookup k) (given'.lookup k)) :
    Matches (ofTable? source given) (ofTable? source given') := by
  unfold ofTable?
  rw [(parts markKey).isSome]
  split
  · exact .refl none
  · have part := parts valueKey
    cases one : given.lookup valueKey with
    | none =>
      rw [one] at part
      obtain two := Option.isSome_eq_false_iff.mp part.isSome.symm
      rw [Option.isNone_iff_eq_none] at two
      rw [two]
      exact ⟨rfl, fun _ _ => by simp⟩
    | some s =>
      rw [one] at part
      obtain ⟨t, two⟩ := Option.isSome_iff_exists.mp part.isSome.symm
      rw [two] at part ⊢
      exact part

theorem isSome_ofFields?_cons (k : String) (d : Toml) (fields : List (String × Toml)) :
    (ofFields? source ((k, d) :: fields)).isSome =
      ((ofToml? source d).isSome && (ofFields? source fields).isSome) := by
  simp only [ofFields?, Option.bind_eq_bind]
  cases ofToml? source d <;> cases ofFields? source fields <;> rfl

private theorem isSome_ofItems?_cons (d : Toml) (items : List Toml) :
    (ofItems? source (d :: items)).isSome =
      ((ofToml? source d).isSome && (ofItems? source items).isSome) := by
  simp only [ofItems?, Option.bind_eq_bind]
  cases ofToml? source d <;> cases ofItems? source items <;> rfl

mutual

private theorem ofToml?_reordered : ∀ {d d' : Toml}, Reordered d d' →
    Matches (ofToml? source d) (ofToml? source d')
  | _, _, .same d => .refl _
  | .table fields, .table fields', .table fieldwise => by
    have whole := ofFields?_reordered fieldwise
    have parts := lookup_reordered fieldwise
    simp only [ofToml?]
    cases one : ofFields? source fields with
    | none =>
      rw [one] at whole
      rw [Option.isNone_iff_eq_none.mp (Option.isSome_eq_false_iff.mp whole.symm)]
      exact .refl none
    | some given =>
      rw [one] at whole
      obtain ⟨given', two⟩ := Option.isSome_iff_exists.mp whole.symm
      rw [two]
      refine ofTable?_matches fun k => ?_
      rw [ofFields?_lookup source one, ofFields?_lookup source two]
      exact parts k
  | .array _, .array _, .array itemwise => by
    have same := ofItems?_reordered itemwise
    simp only [ofToml?]
    exact ⟨by simpa using same, fun _ _ => by simp⟩

theorem ofFields?_reordered {fields fields' : List (String × Toml)} :
    FieldsReordered fields fields' → (ofFields? source fields).isSome = (ofFields? source fields').isSome
  | .nil => rfl
  | .cons first rest => by
    have head := (ofToml?_reordered first).isSome
    have tail := ofFields?_reordered rest
    rw [isSome_ofFields?_cons, isSome_ofFields?_cons, head, tail]
  | .swap differ d e fields => by
    simp only [isSome_ofFields?_cons]
    exact Bool.and_left_comm _ _ _
  | .trans first second => (ofFields?_reordered first).trans (ofFields?_reordered second)

theorem lookup_reordered {fields fields' : List (String × Toml)} :
    FieldsReordered fields fields' → ∀ k,
      Matches ((fields.lookup k).bind (ofToml? source)) ((fields'.lookup k).bind (ofToml? source))
  | .nil, _ => .refl _
  | .cons (k := j) first rest, k => by
    rw [List.lookup_cons, List.lookup_cons]
    cases k == j with
    | true => exact ofToml?_reordered first
    | false => exact lookup_reordered rest k
  | .swap differ d e fields, k => by
    rw [Toml.lookup_swap differ]
    exact .refl _
  | .trans first second, k => (lookup_reordered first k).trans (lookup_reordered second k)

private theorem ofItems?_reordered {items items' : List Toml} :
    ItemsReordered items items' → (ofItems? source items).isSome = (ofItems? source items').isSome
  | .nil => rfl
  | .cons first rest => by
    have head := (ofToml?_reordered first).isSome
    have tail := ofItems?_reordered rest
    rw [isSome_ofItems?_cons, isSome_ofItems?_cons, head, tail]

end

end Setting

end Peripherals

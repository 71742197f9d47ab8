import Mathlib.Data.List.Perm.Lattice
import Peripherals.Json.Document
/-!
Records in JSON. Main statement: a record is read from what an object gives under its keys, or from what
an array gives in their order.
-/

set_option autoImplicit false

namespace Peripherals.Json

open Document

/-! ### What a document gives for a field -/

def under (fields : List (String × Json)) (name : String) : Option Json :=
  (Json.object fields).field? name

private theorem under_eq (fields : List (String × Json)) (name : String) :
    under fields name = (fields.reverse.find? fun f => f.1 == name).map (·.2) :=
  rfl

theorem under_append (before after : List (String × Json)) (name : String) :
    under (before ++ after) name = (under after name).or (under before name) := by
  simp only [under_eq, List.reverse_append, List.find?_append]
  cases after.reverse.find? (fun f => f.1 == name) <;> rfl

private theorem under_cons (key : String) (v : Json) (fields : List (String × Json)) (name : String) :
    under ((key, v) :: fields) name =
      (under fields name).or (if key = name then some v else none) := by
  rw [← List.singleton_append, under_append]
  congr 1
  by_cases same : key = name <;> simp [under_eq, same]

theorem under_insert_of_ne (before after : List (String × Json)) {key name : String} (other : key ≠ name)
    (v : Json) : under (before ++ (key, v) :: after) name = under (before ++ after) name := by
  rw [under_append, under_append, under_cons, if_neg other, Option.or_none]

theorem under_insert_self (before after : List (String × Json)) (key : String) (v : Json) :
    under (before ++ (key, v) :: after) key = some ((under after key).getD v) := by
  rw [under_append, under_cons, if_pos rfl]
  cases under after key <;> rfl

theorem under_eq_none_iff {fields : List (String × Json)} {name : String} :
    under fields name = none ↔ name ∉ fields.map Prod.fst := by
  rw [under_eq, Option.map_eq_none_iff, List.find?_eq_none, List.mem_map]
  constructor
  · rintro apart ⟨f, member, rfl⟩
    exact apart f (List.mem_reverse.mpr member) (beq_self_eq_true f.1)
  · intro absent f member same
    exact absent ⟨f, List.mem_reverse.mp member, eq_of_beq same⟩

theorem under_eq_some_iff {fields : List (String × Json)} (distinct : (fields.map Prod.fst).Nodup)
    {name : String} {v : Json} : under fields name = some v ↔ (name, v) ∈ fields := by
  induction fields with
  | nil => simp [under_eq]
  | cons f fields ih =>
    obtain ⟨key, w⟩ := f
    obtain ⟨absent, distinct⟩ := List.nodup_cons.mp distinct
    rw [under_cons, Option.or_eq_some_iff, ih distinct, List.mem_cons, under_eq_none_iff]
    constructor
    · rintro (later | ⟨-, here⟩)
      · exact .inr later
      · split at here
        · next same => exact .inl (by rw [same, Option.some.inj here])
        · cases here
    · rintro (here | later)
      · obtain ⟨rfl, rfl⟩ := Prod.mk.inj here
        exact .inr ⟨absent, if_pos rfl⟩
      · exact .inl later

theorem under_perm {fields fields' : List (String × Json)} (perm : fields.Perm fields')
    (distinct : (fields.map Prod.fst).Nodup) (name : String) : under fields name = under fields' name := by
  have distinct' : (fields'.map Prod.fst).Nodup := (perm.map Prod.fst).nodup_iff.mp distinct
  refine Option.ext fun v => ?_
  rw [under_eq_some_iff distinct, under_eq_some_iff distinct', perm.mem_iff]

theorem under_filter_of_ne {fields : List (String × Json)} {key name : String} (other : name ≠ key) :
    under (fields.filter (·.1 != key)) name = under fields name := by
  simp only [under_eq, ← List.filter_reverse, List.find?_filter]
  congr 2
  funext f
  by_cases same : f.1 = name
  · simp [same, other]
  · simp [same]

theorem under_filter_self (fields : List (String × Json)) (key : String) :
    under (fields.filter (·.1 != key)) key = none := by
  simp [under_eq_none_iff]

theorem under_map (fields : List (String × Json)) (g : Json → Json) (name : String) :
    under (fields.map fun f => (f.1, g f.2)) name = (under fields name).map g := by
  simp only [under_eq, ← List.map_reverse, List.find?_map, Option.map_map, Function.comp_def]

/-- What a document gives for a field of a record with these keys. -/
def given (names : List String) : Json → String → Option Json
  | .object fields, name => under fields name
  | .array items, name => items[names.idxOf name]?
  | _, _ => none

/-- A document has the form of a record with so many fields. -/
def isRecord (fields : Nat) : Json → Bool
  | .object _ => true
  | .array items => items.length ≤ fields
  | _ => false

theorem record_ok_iff {α : Type} {title : String} {names : List String} {form : Form Json Misreading α}
    {d : Json} {a : α} : format.record title names form d = .ok a ↔
      ∃ look, (d.isRecord names.length = true ∧ d.given names = look) ∧ form look = .ok a := by
  simp only [and_assoc, exists_and_left, exists_eq_left']
  change readRecord title names form d = .ok a ↔ _
  cases d with
  | object fields =>
    rw [readRecord, show given names (.object fields) = (Json.object fields).field? from rfl]
    cases form (Json.object fields).field? with
    | ok b => simp [isRecord]
    | error m =>
      simp only [isRecord, true_and, reduceCtorEq, iff_false]
      split <;> simp
  | array items =>
    rw [readRecord, show given names (.array items) = fun name => items[names.idxOf name]? from rfl]
    cases form fun name => items[names.idxOf name]? with
    | ok b =>
      by_cases short : items.length ≤ names.length <;> simp [isRecord, short]
    | error m =>
      simp only [reduceCtorEq, and_false, iff_false]
      split <;> simp
  | _ => simp [readRecord, isRecord]

/-! ### Values without parts -/

theorem text_ok_iff {d : Json} {s : String} : format.text d = .ok s ↔ d = .text s := by
  cases d <;> simp [format, readText]

theorem pathText_ok_iff {d : Json} {s : String} : format.pathText d = .ok s ↔ d = .text s :=
  text_ok_iff

theorem flag_ok_iff {d : Json} {b : Bool} : format.flag d = .ok b ↔ d = .bool b := by
  cases d <;> simp [format, readFlag]

private theorem word_ok_iff {bits : Nat} {d : Json} {n : Nat} :
    format.word bits d = .ok n ↔ d = .int n ∧ n < Nat.pow 2 bits := by
  change readWord bits d = _ ↔ _
  cases d with
  | int m =>
    simp only [readWord]
    generalize Nat.pow 2 bits = bound
    split
    · next fits => simp only [Except.ok.injEq, Json.int.injEq]; omega
    · next wide => simp only [reduceCtorEq, Json.int.injEq, false_iff]; omega
  | _ => simp [readWord]

private theorem map_word_ok_iff {α : Type} {bits : Nat} {of : Nat → α} {toNat : α → Nat}
    (of_toNat : ∀ a, of (toNat a) = a) (toNat_of : ∀ n < Nat.pow 2 bits, toNat (of n) = n)
    (small : ∀ a, toNat a < Nat.pow 2 bits) {d : Json} {a : α} :
    (format.word bits d).map of = .ok a ↔ d = .int (toNat a) := by
  constructor
  · intro read
    cases word : format.word bits d with
    | error m => simp [word, Except.map] at read
    | ok n =>
      obtain ⟨rfl, fits⟩ := word_ok_iff.mp word
      rw [word] at read
      obtain rfl := Except.ok.inj read
      rw [toNat_of n fits]
  · rintro rfl
    rw [word_ok_iff.mpr ⟨rfl, small a⟩]
    exact congrArg Except.ok (of_toNat a)

theorem word32_ok_iff {d : Json} {n : UInt32} : format.word32 d = .ok n ↔ d = .int n.toNat :=
  map_word_ok_iff (fun _ => UInt32.ofNat_toNat) (fun _ => Nat.mod_eq_of_lt) UInt32.toNat_lt

theorem word64_ok_iff {d : Json} {n : UInt64} : format.word64 d = .ok n ↔ d = .int n.toNat :=
  map_word_ok_iff (fun _ => UInt64.ofNat_toNat) (fun _ => Nat.mod_eq_of_lt) UInt64.toNat_lt

end Peripherals.Json

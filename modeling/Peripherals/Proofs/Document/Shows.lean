import Peripherals.Document.Format
import Peripherals.Toml.Format
/-!
What a format has to do with a plain document for every record to be read back from it: texts, flags,
numbers, names and tables are read as what they are, and what is absent keeps its default.
-/

set_option autoImplicit false

namespace Peripherals.Document

/-! ### Forms -/

namespace Form

variable {V ε α β : Type} {record : String → Option V}

/-- A form reads a value from a record. -/
def Yields (x : Form V ε α) (record : String → Option V) (a : α) : Prop :=
  x record = .ok a

theorem Yields.map {x : Form V ε α} {a : α} (f : α → β) (h : x.Yields record a) :
    (f <$> x).Yields record (f a) := by
  show (x record).map f = _
  rw [show x record = .ok a from h]
  rfl

theorem Yields.seq {f : Form V ε (α → β)} {x : Form V ε α} {g : α → β} {a : α}
    (hf : f.Yields record g) (hx : x.Yields record a) : (f <*> x).Yields record (g a) := by
  show ap f x record = _
  simp only [ap, show f record = .ok g from hf, show x record = .ok a from hx]

variable {name : String} {default a : α} {read : V → Except ε α}

private theorem yields_given {v : V} (given : record name = some v) (h : read v = .ok a) :
    (withDefault name default read).Yields record a := by
  simp only [Yields, withDefault, given, h]
  rfl

private theorem yields_absent (absent : record name = none) :
    (withDefault name default read).Yields record default := by
  simp only [Yields, withDefault, absent]

end Form

/-! ### Formats -/

namespace Format

variable {V ε : Type}

/-- The values `v` that show a plain document `d`, and how a format reads them. -/
structure Shows (f : Format V ε) (shows : Toml → V → Prop) : Prop where
  text : ∀ {s : String} {v : V}, shows (.text s) v → f.text v = .ok s
  pathText : ∀ {s : String} {v : V}, shows (.text s) v → f.pathText v = .ok s
  flag : ∀ {b : Bool} {v : V}, shows (.flag b) v → f.flag v = .ok b
  word : ∀ {n bits : Nat} {v : V}, shows (.int n) v → n < Nat.pow 2 bits → f.word bits v = .ok n
  choice : ∀ {title s : String} {names : List String} {v : V}, shows (.text s) v → s ∈ names →
    f.choice title names v = .ok s
  optional : ∀ {α : Type} {read : V → Except ε α} {v : V} {a : α}, read v = .ok a →
    f.optional read v = .ok (some a)
  /-- A record is read from the fields of a table, each of which shows its part of the table. -/
  record : ∀ {fields : List (String × Toml)} {v : V}, shows (.table fields) v →
    ∃ lookup : String → Option V,
      (∀ name, Option.Rel shows (fields.lookup name) (lookup name)) ∧
      ∀ {α : Type} {title : String} {names : List String} {form : Form V ε α} {a : α},
        form.Yields lookup a → f.record title names form v = .ok a

namespace Shows

variable {f : Format V ε} {shows : Toml → V → Prop} (laws : f.Shows shows)
include laws

theorem word32 {n : UInt32} {v : V} (h : shows (.int n.toNat) v) : f.word32 v = .ok n := by
  rw [Format.word32, laws.word h (UInt32.toNat_lt n)]
  exact congrArg Except.ok (UInt32.ofNat_toNat)

theorem word64 {n : UInt64} {v : V} (h : shows (.int n.toNat) v) : f.word64 v = .ok n := by
  rw [Format.word64, laws.word h (UInt64.toNat_lt n)]
  exact congrArg Except.ok (UInt64.ofNat_toNat)

theorem oneOf {α : Type} {title : String} {all : List α} {name : α → String} {default a : α} {v : V}
    (member : a ∈ all) (apart : ∀ b ∈ all, name b = name a → b = a)
    (h : shows (.text (name a)) v) : f.oneOf title all name default v = .ok a := by
  rw [Format.oneOf, laws.choice h (List.mem_map_of_mem member)]
  suffices eq : (all.find? fun b => name b == name a).getD default = a from congrArg Except.ok eq
  cases found : all.find? (fun b => name b == name a) with
  | none => exact absurd (List.find?_eq_none.mp found a member) (by simp)
  | some b =>
    have same := List.find?_some found
    exact apart b (List.mem_of_find?_eq_some found) (by simpa using same)

end Shows

/-! ### Fields -/

section Fields

variable {f : Format V ε} {shows : Toml → V → Prop} {fields : List (String × Toml)}
  {lookup : String → Option V} (parts : ∀ name, Option.Rel shows (fields.lookup name) (lookup name))
  {α : Type} {name : String}
include parts

theorem field_given {default a : α} {read : V → Except ε α} {d : Toml}
    (given : fields.lookup name = some d) (reads : ∀ {v}, shows d v → read v = .ok a) :
    (Form.withDefault name default read).Yields lookup a := by
  have part := parts name
  rw [given] at part
  generalize eq : lookup name = found at part
  cases part with
  | some shown => exact Form.yields_given eq (reads shown)

theorem field_optional (laws : f.Shows shows) {write : α → Toml} {value : Option α}
    {read : V → Except ε α} (given : fields.lookup name = value.map write)
    (reads : ∀ {a v}, shows (write a) v → read v = .ok a) :
    (Form.withDefault name none (f.optional read)).Yields lookup value := by
  cases value with
  | none =>
    have part := parts name
    rw [given] at part
    generalize eq : lookup name = found at part
    cases part with
    | none => exact Form.yields_absent eq
  | some a => exact field_given parts given fun shown => laws.optional (reads shown)

end Fields

end Format

end Peripherals.Document

namespace Peripherals

open Document

/-- A TOML value shows itself. -/
theorem Toml.format_shows : Toml.format.Shows Eq where
  text h := h ▸ rfl
  pathText h := h ▸ rfl
  flag h := h ▸ rfl
  word {n bits v} h small := by
    subst h
    show readWord bits (.int n) = _
    unfold readWord
    generalize Nat.pow 2 bits = bound at small ⊢
    exact (if_pos (by omega)).trans (congrArg Except.ok (Int.toNat_natCast n))
  choice h member := by
    subst h
    exact if_pos member
  optional h := by
    show (_ : Except _ _).map some = _
    rw [h]
    rfl
  record {fields v} h := by
    subst h
    refine ⟨(fields.lookup ·), fun name => ?_, fun {α title names form a} yields => ?_⟩
    · show Option.Rel Eq (fields.lookup name) (fields.lookup name)
      cases fields.lookup name with
      | none => exact .none
      | some d => exact .some rfl
    · have read : form (fields.lookup ·) = .ok a := yields
      show readRecord names form (.table fields) = _
      simp only [readRecord, read]

end Peripherals

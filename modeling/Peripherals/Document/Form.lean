/-!
Forms: readers of records that look at every field before they judge the whole. A failed form knows
each field that could not be read and each that is missing, so that a document format can decide
which of several faults it names.
-/

set_option autoImplicit false

namespace Peripherals.Document

/-- What is wrong with the fields of a record, both in the order of declaration. -/
structure Misfit (ε : Type) where
  unreadable : List (String × ε) := []
  missing : List String := []

def Misfit.append {ε : Type} (a b : Misfit ε) : Misfit ε :=
  ⟨a.unreadable ++ b.unreadable, a.missing ++ b.missing⟩

/-- Of several named things the one whose name comes first in order. -/
def firstByName {α : Type} (things : List (String × α)) : Option (String × α) :=
  (things.mergeSort (fun a b => a.1 ≤ b.1)).head?

def Form (V ε α : Type) : Type :=
  (String → Option V) → Except (Misfit ε) α

namespace Form

variable {V ε α β : Type}

def withDefault (name : String) (default : α) (read : V → Except ε α) : Form V ε α := fun record =>
  match record name with
  | none => .ok default
  | some v => (read v).mapError fun e => ⟨[(name, e)], []⟩

def required (name : String) (read : V → Except ε α) : Form V ε α := fun record =>
  match record name with
  | none => .error ⟨[], [name]⟩
  | some v => (read v).mapError fun e => ⟨[(name, e)], []⟩

def map (f : α → β) (x : Form V ε α) : Form V ε β := fun record =>
  (x record).map f

/-- Reads two groups of fields; both are looked at even if the first fails. -/
def ap (f : Form V ε (α → β)) (x : Form V ε α) : Form V ε β := fun record =>
  match f record, x record with
  | .ok g, .ok a => .ok (g a)
  | .error m, .ok _ => .error m
  | .ok _, .error m => .error m
  | .error m, .error n => .error (m.append n)

instance : Functor (Form V ε) where
  map := map

instance : Seq (Form V ε) where
  seq f x := ap f (x ())

end Form

end Peripherals.Document

import Peripherals.Document.Form
/-!
Document formats: how the values of one kind of document are read as numbers, texts, choices and
records. What a document says is described once over any format.
-/

set_option autoImplicit false

namespace Peripherals.Document

/-- The readers of one format with values `V` and errors `ε`. -/
structure Format (V ε : Type) where
  text : V → Except ε String
  pathText : V → Except ε String
  flag : V → Except ε Bool
  word : Nat → V → Except ε Nat
  /-- One of several names; the answer is the name. -/
  choice : String → List String → V → Except ε String
  /-- A value that may be given as absent. -/
  optional : {α : Type} → (V → Except ε α) → V → Except ε (Option α)
  /-- A record with a title and the names of its fields in order of declaration. -/
  record : {α : Type} → String → List String → Form V ε α → V → Except ε α

namespace Format

variable {V ε : Type} (f : Format V ε)

def word32 (v : V) : Except ε UInt32 :=
  (f.word 32 v).map Nat.toUInt32

def word64 (v : V) : Except ε UInt64 :=
  (f.word 64 v).map Nat.toUInt64

/-- A value of a finite type, given by its name. -/
def oneOf {α : Type} (title : String) (all : List α) (name : α → String) (default : α) (v : V) :
    Except ε α :=
  (f.choice title (all.map name) v).map fun s => (all.find? (fun a => name a == s)).getD default

end Format

end Peripherals.Document

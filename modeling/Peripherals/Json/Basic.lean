/-!
JSON values.
-/

set_option autoImplicit false

namespace Peripherals

/-- A JSON value. Numbers written as integers are kept apart from all others; the fields of an object
keep their order. -/
inductive Json where
  | null
  | bool (b : Bool)
  | int (n : Int)
  | float (x : Float)
  | text (s : String)
  | array (items : List Json)
  | object (fields : List (String × Json))
  deriving Inhabited

namespace Json

/-- The value of a field; of two fields with one name the last counts. -/
def field? : Json → String → Option Json
  | .object fields, name => (fields.reverse.find? (fun f => f.1 == name)).map (·.2)
  | _, _ => none

def nat (n : Nat) : Json :=
  .int n

def textOrNull : Option String → Json
  | some s => .text s
  | none => .null

end Json

end Peripherals

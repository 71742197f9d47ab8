/-!
TOML values, and the readers that take them from the front of a text.
-/

set_option autoImplicit false

namespace Peripherals

/-- A TOML value. The keys of a table keep their order. -/
inductive Toml where
  | text (s : String)
  | int (n : Int)
  | float (x : Float)
  | flag (b : Bool)
  /-- A date, a time or both, as written. -/
  | moment (written : String)
  | array (items : List Toml)
  | table (fields : List (String × Toml))
  deriving Inhabited

namespace Toml

/-- Takes a value from the front of a text and hands on the rest. -/
abbrev Reader (α : Type) : Type := List Char → Option (α × List Char)

end Toml

end Peripherals

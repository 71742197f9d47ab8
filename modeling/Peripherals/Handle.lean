import Peripherals.Text.Numeral
/-!
Handles: the numbers under which live resources are addressed.
-/

set_option autoImplicit false

namespace Peripherals

/-- Names one live resource. Numbers come from one counter for all desks and are never used again. -/
structure Handle where
  number : Nat
  deriving DecidableEq, Repr

def Handle.text (h : Handle) : String :=
  "#" ++ Text.number h.number

end Peripherals

import Peripherals.Adc.Driver
import Peripherals.Capability
import Peripherals.Decimal.Shortest
import Peripherals.Text.Quoted
/-!
Scaled inputs: an owned analog input read as a number in the unit of its user.
-/

set_option autoImplicit false

namespace Peripherals.Adc

def pinLabel (x : Owned Config) : String :=
  "AdcPin \x7b pin_num: " ++ Text.number x.settings.pin.toNat ++ ", name: " ++
    Text.quoted x.settings.name ++ ", handle: Handle(" ++ Text.number x.handle.number ++ ") \x7d"

/-- An owned input and the factor for its counts. -/
structure Scaled where
  pin : Owned Config
  scale : Float := 1.0

namespace Scaled

def read {σ C : Type} (d : Driver σ C) (x : Scaled) : Action Refusal (Desk σ Config C) Float := do
  let count ← Action.capable (d.value x.pin.handle)
  return Float.ofInt count.toInt * x.scale

def label (x : Scaled) : String :=
  "ReadableAdc \x7b pin: " ++ Text.number x.pin.settings.pin.toNat ++ ", scale: " ++
    Decimal.Style.diagnostic.write x.scale ++ " \x7d"

end Scaled

end Peripherals.Adc

/-!
The three kinds of modules a board can offer.
-/

set_option autoImplicit false

namespace Peripherals

/-- Analog inputs, digital lines, pulse-width outputs. -/
inductive ModuleKind where
  | adc | gpio | pwm
  deriving DecidableEq, Repr

namespace ModuleKind

def all : List ModuleKind :=
  [.adc, .gpio, .pwm]

theorem mem_all (k : ModuleKind) : k ∈ all := by
  cases k <;> decide

def name : ModuleKind → String
  | .adc => "adc"
  | .gpio => "gpio"
  | .pwm => "pwm"

def label : ModuleKind → String
  | .adc => "Adc"
  | .gpio => "Gpio"
  | .pwm => "Pwm"

def ofName? (s : String) : Option ModuleKind :=
  all.find? (fun k => k.name == s)

theorem ofName?_name (k : ModuleKind) : ofName? k.name = some k := by
  cases k <;> rfl

end ModuleKind

end Peripherals

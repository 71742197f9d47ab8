import Peripherals.Capability
import Peripherals.Gpio.Driver
/-!
Switches: an owned line turned on and off under any of its names.
-/

set_option autoImplicit false

namespace Peripherals.Gpio

def pinLabel (x : Owned Config) : String :=
  "GpioPin \x7b id: " ++ Text.number x.settings.line.toNat ++ ", direction: " ++
    x.settings.direction.label ++ ", handle: Handle(" ++ Text.number x.handle.number ++ ") \x7d"

/-- An owned line that is switched. -/
structure Switch where
  pin : Owned Config

namespace Switch

def isNumberOf (line : UInt32) (s : List Char) : Bool :=
  Text.unsigned? (Nat.pow 2 32) s == some line.toNat

/-- What stands behind the word `gpio` at the start of a text. -/
def afterGpio? : List Char → Option (List Char)
  | 'g' :: 'p' :: 'i' :: 'o' :: s => some s
  | _ => none

/-- The names of a line: `value`, the name its user gave it, its number, and its number behind the
word `gpio`. -/
def answersTo (c : Config) (name : String) : Bool :=
  name == "value" || name == c.name || isNumberOf c.line name.toList ||
    (match afterGpio? name.toList with
    | some s => isNumberOf c.line s
    | none => false)

def checkName (c : Config) (name : String) : Except Refusal Unit :=
  if answersTo c name then .ok ()
  else .error (.unsupported ("Unknown feature '" ++ name ++ "' for gpio " ++
    Text.number c.line.toNat))

variable {σ C : Type} (d : Driver σ C) (x : Switch)

def turn (name : String) (on : Bool) : Action Refusal (Desk σ Config C) Unit := do
  Action.ofExcept (checkName x.pin.settings name)
  Action.capable (d.drive x.pin.handle on)

def isOn (name : String) : Action Refusal (Desk σ Config C) Bool := do
  Action.ofExcept (checkName x.pin.settings name)
  Action.capable (d.level x.pin.handle)

def label : String :=
  "SwitchableGpio \x7b id: " ++ Text.number x.pin.settings.line.toNat ++ " \x7d"

end Switch

end Peripherals.Gpio

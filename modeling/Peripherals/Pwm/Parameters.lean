import Peripherals.Capability
import Peripherals.Json.Basic
import Peripherals.Pwm.Driver
/-!
Parameters: an owned pulse-width output as a set of named values.
-/

set_option autoImplicit false

namespace Peripherals.Pwm

def pinLabel (x : Owned Signal) : String :=
  "PwmPin \x7b pin_num: " ++ Text.number x.settings.config.pin.toNat ++ ", handle: Handle(" ++
    Text.number x.handle.number ++ ") \x7d"

/-- An owned output whose parameters are set by name. -/
structure Parameters where
  pin : Owned Signal

namespace Parameters

def readTime (name : String) : Json → Except Refusal UInt32
  | .int n =>
    if n < 0 then .error (.unsupported (name ++ " must be an unsigned integer"))
    else if n < Nat.pow 2 32 then .ok n.toNat.toUInt32
    else .error (.unsupported (name ++ " " ++ Text.number n.toNat ++ " ns out of range"))
  | _ => .error (.unsupported (name ++ " must be an unsigned integer"))

def readPolarity (v : Json) : Except Refusal Polarity :=
  match v with
  | .text s =>
    match Polarity.ofWord? s with
    | some p => .ok p
    | none => .error (.unsupported "polarity must be 'normal' or 'inversed'")
  | _ => .error (.unsupported "polarity must be 'normal' or 'inversed'")

def readSwitch : Json → Except Refusal Bool
  | .bool b => .ok b
  | _ => .error (.unsupported "enabled must be a bool")

def unknown (name : String) : Refusal :=
  .unsupported ("Unknown PWM parameter '" ++ name ++ "'")

variable {σ C : Type} (d : Driver σ C) (x : Parameters)

/-- Sets a parameter. A value of the wrong kind is refused before the output hears of it. -/
def setValue (name : String) (value : Json) : Action Refusal (Desk σ Signal C) Unit :=
  let h := x.pin.handle
  match name with
  | "period" => do
    let period ← Action.ofExcept (readTime name value)
    Action.capable (d.setPeriodOf h period)
  | "duty_cycle" => do
    let duty ← Action.ofExcept (readTime name value)
    Action.capable (d.setDutyOf h duty)
  | "polarity" => do
    let polarity ← Action.ofExcept (readPolarity value)
    Action.capable (d.setPolarityOf h polarity)
  | "enabled" => do
    let on ← Action.ofExcept (readSwitch value)
    Action.capable (d.setRunningOf h on)
  | _ => Action.fail (unknown name)

def getValue (name : String) : Action Refusal (Desk σ Signal C) Json :=
  let h := x.pin.handle
  if name == "enabled" then do
    return .bool (← Action.capable (Desk.inspect h (·.running)))
  else do
    let c ← Action.capable (Desk.inspect h (·.config))
    match name with
    | "period" => return .nat c.period.toNat
    | "duty_cycle" => return .nat c.duty.toNat
    | "polarity" => return .text c.polarity.name
    | _ => Action.fail (unknown name)

def label : String :=
  "SettablePwm \x7b pin: " ++ Text.number x.pin.settings.config.pin.toNat ++ " \x7d"

end Parameters

end Peripherals.Pwm

import Peripherals.Adc.Driver
import Peripherals.Gpio.Driver
import Peripherals.Pwm.Driver
/-!
Recorders: devices that write down every call they get and fail on demand. Quiet devices do neither.
-/

set_option autoImplicit false

namespace Peripherals

/-- The state of a recorder. -/
structure Recorder where
  /-- The calls since they were last collected, in order. -/
  calls : List String := []
  /-- Calls that are to fail, and how many of their name are to pass before; the oldest first. -/
  faults : List (String × Nat) := []
  levels : Assoc UInt32 Bool := ∅

namespace Recorder

/-- Makes a call of this name fail after so many others. -/
def plan (r : Recorder) (name : String) (skip : Nat) : Recorder :=
  { r with faults := r.faults ++ [(name, skip)] }

def collect (r : Recorder) : List String × Recorder :=
  (r.calls, { r with calls := [] })

/-- Counts a call against the oldest plan with its name. The answer is true if the call fails. -/
def count (name : String) : List (String × Nat) → Bool × List (String × Nat)
  | [] => (false, [])
  | (n, skip) :: plans =>
    if n == name then
      match skip with
      | 0 => (true, plans)
      | k + 1 => (false, (n, k) :: plans)
    else
      let (fails, plans) := count name plans
      (fails, (n, skip) :: plans)

def call (name : String) (words : List String) : Action Fault Recorder Unit := fun r =>
  let (fails, faults) := count name r.faults
  let r := { r with calls := r.calls ++ [String.intercalate " " (name :: words)], faults }
  if fails then ⟨.error (.notSupported ("injected " ++ name)), [], r⟩ else ⟨.ok (), [], r⟩

def word (n : UInt32) : String :=
  Text.number n.toNat

def truth (b : Bool) : String :=
  if b then "true" else "false"

def callOn (name : String) (words : List String) : Action Fault (Recorder × UInt32) Unit := do
  let pin := (← Action.get).2
  Action.zoom Lens.fst (call name (word pin :: words))

def adc : Adc.Driver Recorder UInt32 where
  name := "trace"
  claim c := do
    call "open" [word c.pin, c.name]
    return c.pin
  read := do
    callOn "read" []
    return (← Action.get).2.toInt32
  close := callOn "close" []

def gpio : Gpio.Driver Recorder UInt32 where
  name := "trace"
  claim c := do
    call "open" [word c.line, c.direction.name, c.edge.name, truth c.initial]
    return c.line
  read := do
    callOn "read" []
    let (r, line) ← Action.get
    return r.levels.getD line false
  write level := do
    callOn "write" [truth level]
    Action.modify fun (r, line) => ({ r with levels := r.levels.put line level }, line)
  close := callOn "close" []

def pwm : Pwm.Driver Recorder UInt32 where
  name := "trace"
  claim c := do
    call "open" [word c.pin, word c.period, word c.duty, c.polarity.name]
    return c.pin
  setRunning on := callOn "set_enabled" [truth on]
  setPeriod period := callOn "set_period" [word period]
  setDuty duty := callOn "set_duty_cycle" [word duty]
  setPolarity polarity := callOn "set_polarity" [polarity.name]
  close := callOn "close" []

end Recorder

namespace Quiet

variable {σ : Type}

def adc : Adc.Driver σ UInt32 where
  name := "quiet"
  claim c := return c.pin
  read := do
    return -(← Action.get).2.toInt32

def gpio : Gpio.Driver σ Bool where
  name := "quiet"
  claim c := return c.initial
  read := do
    return (← Action.get).2
  write level := Action.modify fun (s, _) => (s, level)

def pwm : Pwm.Driver σ UInt32 where
  name := "quiet"
  claim c := return c.pin
  setRunning _ := pure ()
  setPeriod _ := pure ()
  setDuty _ := pure ()
  setPolarity _ := pure ()

end Quiet

end Peripherals

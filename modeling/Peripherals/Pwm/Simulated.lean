import Peripherals.Pwm.Driver
/-!
Simulated pulse-width outputs: the signal of each output in use, in memory.
-/

set_option autoImplicit false

namespace Peripherals.Pwm

/-- The signal of one output. -/
structure Output where
  period : UInt32
  duty : UInt32
  polarity : Polarity
  running : Bool
  deriving DecidableEq, Repr

/-- The outputs in use. -/
structure Outputs where
  channels : Assoc UInt32 Output := ∅

namespace Outputs

def path (pin : UInt32) : Path :=
  ⟨Path.numbered "mock://pwm/" pin⟩

def output? (o : Outputs) (pin : UInt32) : Option Output :=
  o.channels.get? pin

def openCount (o : Outputs) : Nat :=
  o.channels.size

def update (f : Output → Output) : Action Fault (Outputs × UInt32) Unit := do
  let (o, pin) ← Action.get
  match o.output? pin with
  | some x => Action.set (⟨o.channels.put pin (f x)⟩, pin)
  | none => Action.fail (.deviceNotFound (path pin))

def driver : Driver Outputs UInt32 where
  name := "mock"
  claim c := do
    Action.modify fun o => ⟨o.channels.put c.pin ⟨c.period, c.duty, c.polarity, false⟩⟩
    return c.pin
  setRunning on := update fun x => { x with running := on }
  setPeriod period := update fun x => { x with period }
  setDuty duty := update fun x => { x with duty }
  setPolarity polarity := update fun x => { x with polarity }
  close := Action.modify fun (o, pin) => (⟨o.channels.erase pin⟩, pin)

end Outputs

end Peripherals.Pwm

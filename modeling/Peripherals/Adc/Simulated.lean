import Peripherals.Adc.Driver
/-!
Simulated analog inputs: a bank of channels in memory whose values are set from outside, and which
can be told to fail once.
-/

set_option autoImplicit false

namespace Peripherals.Adc

/-- The state of a bank. -/
structure Bank where
  values : Assoc UInt32 Int32 := ∅
  opened : List UInt32 := []
  failRead : Bool := false
  failClose : Bool := false

namespace Bank

def path (pin : UInt32) : Path :=
  ⟨Path.numbered "mock://adc/" pin⟩

def preset (b : Bank) (pin : UInt32) (value : Int32) : Bank :=
  { b with values := b.values.put pin value }

def openCount (b : Bank) : Nat :=
  b.opened.length

def armRead (b : Bank) : Bank :=
  { b with failRead := true }

def armClose (b : Bank) : Bank :=
  { b with failClose := true }

def insertOpen (b : Bank) (pin : UInt32) : Bank :=
  if pin ∈ b.opened then b else { b with opened := pin :: b.opened }

def eraseOpen (b : Bank) (pin : UInt32) : Bank :=
  { b with opened := b.opened.filter (· ≠ pin) }

def usualSize : UInt32 := 8

def driver (channels : UInt32) : Driver Bank UInt32 where
  name := "mock"
  claim c := do
    if channels ≤ c.pin then Action.fail (.deviceNotFound (path c.pin))
    Action.modify (·.insertOpen c.pin)
    return c.pin
  read := do
    let (b, pin) ← Action.get
    if b.failRead then
      Action.set ({ b with failRead := false }, pin)
      Action.fail (.shortRead (path pin))
    return b.values.getD pin 0
  close := do
    let (b, pin) ← Action.get
    if b.failClose then
      Action.set ({ b with failClose := false }, pin)
      Action.fail (.ofIo (path pin) (.described .other "injected close failure"))
    Action.set (b.eraseOpen pin, pin)

end Bank

end Peripherals.Adc

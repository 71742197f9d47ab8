import Peripherals.Gpio.Driver
/-!
Simulated digital lines: levels in memory that can be driven from outside.
-/

set_option autoImplicit false

namespace Peripherals.Gpio

/-- The state of simulated lines. -/
structure Lines where
  levels : Assoc UInt32 Bool := ∅
  opened : List UInt32 := []

namespace Lines

def drive (l : Lines) (line : UInt32) (level : Bool) : Lines :=
  { l with levels := l.levels.put line level }

/-- The level of a line; it is low until someone drives it. -/
def level (l : Lines) (line : UInt32) : Bool :=
  l.levels.getD line false

def openCount (l : Lines) : Nat :=
  l.opened.length

def insertOpen (l : Lines) (line : UInt32) : Lines :=
  if line ∈ l.opened then l else { l with opened := line :: l.opened }

def eraseOpen (l : Lines) (line : UInt32) : Lines :=
  { l with opened := l.opened.filter (· ≠ line) }

def driver : Driver Lines UInt32 where
  name := "mock"
  claim c := do
    if c.direction = .output then Action.modify (·.drive c.line c.initial)
    Action.modify (·.insertOpen c.line)
    return c.line
  read := do
    let (l, line) ← Action.get
    return l.level line
  write level := Action.modify fun (l, line) => (l.drive line level, line)
  close := Action.modify fun (l, line) => (l.eraseOpen line, line)

end Lines

end Peripherals.Gpio

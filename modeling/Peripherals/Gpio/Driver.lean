import Peripherals.Desk.Owned
import Peripherals.Gpio.Config
/-!
Digital lines over any device: the driver a device supplies, and the commands of a desk.
-/

set_option autoImplicit false

namespace Peripherals.Gpio

/-- How lines `C` of a device with state `σ` are opened, read, driven and closed. -/
structure Driver (σ C : Type) where
  name : String
  claim : Config → Action Fault σ C
  read : Action Fault (σ × C) Bool
  write : Bool → Action Fault (σ × C) Unit
  close : Action Fault (σ × C) Unit := pure ()

def trade : Trade Config where
  module := .gpio
  noun := "GPIO line"
  keyName := "id"
  closing := "release"
  key c := c.line
  details c := [("direction", c.direction.name)]

namespace Driver

variable {σ C : Type} (d : Driver σ C)

def device : Device σ Config C where
  trade := trade
  backend := d.name
  claim := d.claim
  rest := pure ()
  close := Action.zoom Lease.channelLens d.close

def request (c : Config) : Action Fault (Desk σ Config C) Handle :=
  d.device.request c

def level (h : Handle) : Action Fault (Desk σ Config C) Bool :=
  Desk.withLease h (Action.zoom Lease.channelLens d.read)

/-- Drives a line. Inputs are refused before the device hears of it. -/
def drive (h : Handle) (level : Bool) : Action Fault (Desk σ Config C) Unit :=
  Desk.withLease h do
    let c := (← Action.get).2.settings
    if c.direction = .output then Action.zoom Lease.channelLens (d.write level)
    else
      Action.fail (.invalidArgument ("gpio " ++ Text.number c.line.toNat ++ " is an input line"))

def release (h : Handle) : Action Fault (Desk σ Config C) Unit :=
  d.device.release h

end Driver

/-- What can be asked of a desk. -/
inductive Command where
  | request (config : Config)
  | release (h : Handle)
  | level (h : Handle)
  | drive (h : Handle) (level : Bool)
  | name (h : Handle)
  | direction (h : Handle)
  | line (h : Handle)
  deriving DecidableEq

/-- What a desk answers. -/
inductive Answer where
  | granted (h : Handle)
  | level (b : Bool)
  | name (s : String)
  | direction (d : Direction)
  | line (n : UInt32)
  | done
  deriving DecidableEq

def Driver.perform {σ C : Type} (d : Driver σ C) :
    Command → Action Fault (Desk σ Config C) Answer
  | .request c => .granted <$> d.request c
  | .release h => do
    d.release h
    return .done
  | .level h => .level <$> d.level h
  | .drive h b => do
    d.drive h b
    return .done
  | .name h => .name <$> Desk.inspect h (·.name)
  | .direction h => .direction <$> Desk.inspect h (·.direction)
  | .line h => .line <$> Desk.inspect h (·.line)

end Peripherals.Gpio

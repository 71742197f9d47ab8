import Peripherals.Adc.Config
import Peripherals.Desk.Owned
/-!
Analog inputs over any device: the driver a device supplies, and the commands of a desk.
-/

set_option autoImplicit false

namespace Peripherals.Adc

/-- How analog channels `C` of a device with state `σ` are opened, read and closed. -/
structure Driver (σ C : Type) where
  name : String
  claim : Config → Action Fault σ C
  read : Action Fault (σ × C) Int32
  close : Action Fault (σ × C) Unit := pure ()

def trade : Trade Config where
  module := .adc
  noun := "ADC pin"
  keyName := "pin"
  closing := "close"
  key c := c.pin
  details _ := []

namespace Driver

variable {σ C : Type} (d : Driver σ C)

def device : Device σ Config C where
  trade := trade
  backend := d.name
  claim := d.claim
  rest := pure ()
  close := Action.zoom Lease.channelLens d.close

def request (c : Config) : Action Fault (Desk σ Config C) Handle :=
  d.device.request c

def value (h : Handle) : Action Fault (Desk σ Config C) Int32 :=
  Desk.withLease h (Action.zoom Lease.channelLens d.read)

def release (h : Handle) : Action Fault (Desk σ Config C) Unit :=
  d.device.release h

end Driver

/-- What can be asked of a desk. -/
inductive Command where
  | request (config : Config)
  | value (h : Handle)
  | release (h : Handle)
  | config (h : Handle)
  deriving DecidableEq

/-- What a desk answers. -/
inductive Answer where
  | granted (h : Handle)
  | sample (n : Int32)
  | config (c : Config)
  | done
  deriving DecidableEq

def Driver.perform {σ C : Type} (d : Driver σ C) :
    Command → Action Fault (Desk σ Config C) Answer
  | .request c => .granted <$> d.request c
  | .value h => .sample <$> d.value h
  | .release h => do
    d.release h
    return .done
  | .config h => .config <$> Desk.inspect h id

end Peripherals.Adc

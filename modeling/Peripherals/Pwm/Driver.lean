import Peripherals.Desk.Owned
import Peripherals.Pwm.Config
/-!
Pulse-width outputs over any device: the driver a device supplies, and the commands of a desk. The
desk keeps a record of the signal and of whether it runs, and changes the record only after the
device has followed.
-/

set_option autoImplicit false

namespace Peripherals.Pwm

/-- How outputs `C` of a device with state `σ` are opened, changed and closed. -/
structure Driver (σ C : Type) where
  name : String
  /-- Opens an output with the signal of a configuration; it does not run yet. -/
  claim : Config → Action Fault σ C
  setRunning : Bool → Action Fault (σ × C) Unit
  setPeriod : UInt32 → Action Fault (σ × C) Unit
  setDuty : UInt32 → Action Fault (σ × C) Unit
  setPolarity : Polarity → Action Fault (σ × C) Unit
  close : Action Fault (σ × C) Unit := pure ()

/-- The record of an output: its signal, and whether it runs. -/
structure Signal where
  config : Config
  running : Bool := false
  deriving DecidableEq, Repr

def trade : Trade Signal where
  module := .pwm
  noun := "PWM channel"
  keyName := "pin"
  closing := "release"
  key s := s.config.pin
  details s :=
    [("period", Text.number s.config.period.toNat), ("duty_cycle", Text.number s.config.duty.toNat)]

namespace Driver

variable {σ C : Type} (d : Driver σ C)

def recorded : Action Fault (σ × Lease Signal C) Signal := do
  return (← Action.get).2.settings

def amend (f : Signal → Signal) : Action Fault (σ × Lease Signal C) Unit :=
  Action.modify fun p => (p.1, { p.2 with settings := f p.2.settings })

def run (on : Bool) : Action Fault (σ × Lease Signal C) Unit := do
  Action.zoom Lease.channelLens (d.setRunning on)
  amend fun s => { s with running := on }

def halt : Action Fault (σ × Lease Signal C) Unit := do
  if (← recorded).running then d.run false

def device : Device σ Signal C where
  trade := trade
  backend := d.name
  claim s := d.claim s.config
  rest := d.halt
  close := Action.zoom Lease.channelLens d.close

/-- Hands out an output; a pulse longer than its period is refused first. -/
def request (c : Config) : Action Fault (Desk σ Signal C) Handle := do
  Action.ofExcept c.check
  d.device.request ⟨c, false⟩

def release (h : Handle) : Action Fault (Desk σ Signal C) Unit :=
  d.device.release h

def setRunningOf (h : Handle) (on : Bool) : Action Fault (Desk σ Signal C) Unit :=
  Desk.withLease h (d.run on)

def setPeriodOf (h : Handle) (period : UInt32) : Action Fault (Desk σ Signal C) Unit :=
  Desk.withLease h do
    Action.ofExcept (checkDuty period (← recorded).config.duty)
    Action.zoom Lease.channelLens (d.setPeriod period)
    amend fun s => { s with config := { s.config with period } }

def setDutyOf (h : Handle) (duty : UInt32) : Action Fault (Desk σ Signal C) Unit :=
  Desk.withLease h do
    Action.ofExcept (checkDuty (← recorded).config.period duty)
    Action.zoom Lease.channelLens (d.setDuty duty)
    amend fun s => { s with config := { s.config with duty } }

/-- Changes the polarity. A device takes it from an output at rest only, so a running output is
stopped before and started again after. -/
def setPolarityOf (h : Handle) (polarity : Polarity) : Action Fault (Desk σ Signal C) Unit :=
  Desk.withLease h do
    let running := (← recorded).running
    if running then d.run false
    Action.zoom Lease.channelLens (d.setPolarity polarity)
    amend fun s => { s with config := { s.config with polarity } }
    if running then d.run true

end Driver

/-- What can be asked of a desk. -/
inductive Command where
  | request (config : Config)
  | release (h : Handle)
  | enable (h : Handle)
  | disable (h : Handle)
  | setPeriod (h : Handle) (period : UInt32)
  | setDuty (h : Handle) (duty : UInt32)
  | setPolarity (h : Handle) (polarity : Polarity)
  | config (h : Handle)
  | isEnabled (h : Handle)
  deriving DecidableEq

/-- What a desk answers. -/
inductive Answer where
  | granted (h : Handle)
  | config (c : Config)
  | enabled (b : Bool)
  | done
  deriving DecidableEq

def Driver.perform {σ C : Type} (d : Driver σ C) :
    Command → Action Fault (Desk σ Signal C) Answer
  | .request c => .granted <$> d.request c
  | .release h => do
    d.release h
    return .done
  | .enable h => do
    d.setRunningOf h true
    return .done
  | .disable h => do
    d.setRunningOf h false
    return .done
  | .setPeriod h period => do
    d.setPeriodOf h period
    return .done
  | .setDuty h duty => do
    d.setDutyOf h duty
    return .done
  | .setPolarity h polarity => do
    d.setPolarityOf h polarity
    return .done
  | .config h => .config <$> Desk.inspect h (·.config)
  | .isEnabled h => .enabled <$> Desk.inspect h (·.running)

end Peripherals.Pwm

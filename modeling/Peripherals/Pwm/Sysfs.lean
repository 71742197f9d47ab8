import Peripherals.Attribute
import Peripherals.Pwm.Driver
/-!
Pulse-width outputs of the Linux attribute tree. A channel that the kernel does not show yet is
exported when it is claimed, and only such a channel is unexported when it is closed.
-/

set_option autoImplicit false

namespace Peripherals.Pwm

/-- One chip below the root of the attribute tree. -/
structure Sysfs where
  root : Path
  chip : UInt32
  deriving DecidableEq, Repr

namespace Sysfs

/-- An open channel. -/
structure Channel where
  pin : UInt32
  dir : Path
  /-- This program exported the channel and has not unexported it since. -/
  exported : Bool
  deriving DecidableEq, Repr

variable {φ F : Type}

def chipDir (s : Sysfs) : Path :=
  (s.root.join "class/pwm").join (Path.numbered "pwmchip" s.chip)

def channelDir (s : Sysfs) (pin : UInt32) : Path :=
  s.chipDir.join (Path.numbered "pwm" pin)

def switchText (on : Bool) : String :=
  if on then "1" else "0"

section

variable (fs : FileSystem φ F) (s : Sysfs)

def exportChannel (pin : UInt32) : Action Fault φ Unit := do
  Attribute.store fs (s.chipDir.join "export") (Text.number pin.toNat)
  Action.note ⟨.debug, "Exported PWM channel",
    [("chip", Text.number s.chip.toNat), ("pin", Text.number pin.toNat)]⟩

def unexportChannel (pin : UInt32) : Action Fault φ Unit :=
  Attribute.store fs (s.chipDir.join "unexport") (Text.number pin.toNat)

def standsStill (dir : Path) : Action Fault φ Bool := do
  match ← Action.attempt (Attribute.load fs (dir.join "enable")) with
  | .ok value => return value == "0"
  | .error _ => return false

/-- Gives an exported channel its signal. The pulse is cut to nothing first, so that every period is
long enough for it. -/
def configure (c : Config) : Action Fault φ Unit := do
  let dir := s.channelDir c.pin
  if !(← standsStill fs dir) then
    Attribute.store fs (dir.join "enable") "0"
  Attribute.store fs (dir.join "duty_cycle") "0"
  Attribute.store fs (dir.join "period") (Text.number c.period.toNat)
  Attribute.store fs (dir.join "duty_cycle") (Text.number c.duty.toNat)
  Attribute.store fs (dir.join "polarity") c.polarity.name

def undoExport (pin : UInt32) : Action Fault φ Unit := do
  match ← Action.attempt (unexportChannel fs s pin) with
  | .ok () => pure ()
  | .error e => Action.note ⟨.warn, "Failed to unexport PWM channel",
      [("pin", Text.number pin.toNat), ("error", e.message)]⟩

def claim (c : Config) : Action Fault φ Channel := do
  let present ← fs.isPresent (s.channelDir c.pin)
  if !present then exportChannel fs s c.pin
  match ← Action.attempt (configure fs s c) with
  | .ok () => return ⟨c.pin, s.channelDir c.pin, !present⟩
  | .error e =>
    if !present then undoExport fs s c.pin
    Action.fail e

def set (name value : String) : Action Fault (φ × Channel) Unit := do
  Action.zoom Lens.fst (Attribute.store fs ((← Action.get).2.dir.join name) value)

def close : Action Fault (φ × Channel) Unit := do
  let channel := (← Action.get).2
  if channel.exported then
    Action.zoom Lens.fst (unexportChannel fs s channel.pin)
    Action.modify fun p => (p.1, { p.2 with exported := false })
    Action.note ⟨.debug, "Unexported PWM channel",
      [("chip", Text.number s.chip.toNat), ("pin", Text.number channel.pin.toNat)]⟩

def driver : Driver φ Channel where
  name := "sysfs"
  claim := claim fs s
  setRunning on := set fs "enable" (switchText on)
  setPeriod period := set fs "period" (Text.number period.toNat)
  setDuty duty := set fs "duty_cycle" (Text.number duty.toNat)
  setPolarity polarity := set fs "polarity" polarity.name
  close := close fs s

end

end Sysfs

end Peripherals.Pwm

import Peripherals.Adc.Driver
import Peripherals.Adc.Samples
import Peripherals.Fault
import Peripherals.FileSystem
/-!
Analog inputs of a real-time system: one character device that gives packed samples of all its
channels.
-/

set_option autoImplicit false

namespace Peripherals.Adc

/-- One converter below the directory of devices. Without a trigger the device is read from its
start, so that a file of recorded samples can stand in for it. -/
structure Rtos where
  root : Path
  device : UInt32
  trigger : Option UInt64
  deriving DecidableEq, Repr

namespace Rtos

def defaultTrigger : UInt64 := 0x0b01

def samplesPerRead : Nat := 8

/-- An open device, used for one of its channels. -/
structure Channel (F : Type) where
  pin : UInt32
  path : Path
  file : F

variable {φ F : Type}

def devicePath (r : Rtos) : Path :=
  r.root.join (Path.numbered "adc" r.device)

def fileLens : Lens (φ × Channel F) (φ × F) where
  get p := (p.1, p.2.file)
  set q p := (q.1, { p.2 with file := q.2 })

/-- Works on the open device; an error names its path. -/
def onFile {α : Type} (work : Action IoError (φ × F) α) : Action Fault (φ × Channel F) α :=
  fun p => Action.mapError (Fault.ofIo p.2.path) (Action.zoom fileLens work) p

def valueAt? (pin : UInt32) (samples : List Sample) : Option Int32 :=
  (samples.find? (fun s => s.channel.toNat == pin.toNat)).map (·.value)

/-- The answer that the bytes of one read give for a channel. -/
def pick (path : Path) (pin : UInt32) (bytes : List UInt8) : Action Fault (φ × Channel F) Int32 :=
  if bytes.length < Sample.size then Action.fail (.shortRead path)
  else do
    let samples := Sample.decodeAll bytes
    Action.note ⟨.trace, "Read ADC samples",
      [("pin", Text.number pin.toNat), ("samples", Text.number samples.length)]⟩
    match valueAt? pin samples with
    | some n => return n
    | none => Action.fail (.noSample path pin.toNat)

def driver (fs : FileSystem φ F) (r : Rtos) : Driver φ (Channel F) where
  name := "tizenrt"
  claim c :=
    if 255 < c.pin.toNat then
      Action.fail (.invalidArgument
        ("ADC channel " ++ Text.number c.pin.toNat ++ " does not fit a sample record"))
    else do
      let file ← Action.mapError (Fault.ofIo r.devicePath) (fs.openRead r.devicePath)
      Action.note ⟨.debug, "Opened RTOS ADC device",
        [("pin", Text.number c.pin.toNat), ("path", r.devicePath.text)]⟩
      return ⟨c.pin, r.devicePath, file⟩
  read := do
    match r.trigger with
    | some request => onFile (fs.control request)
    | none => onFile fs.rewind
    let bytes ← onFile (fs.readUpTo (Sample.size * samplesPerRead))
    let channel := (← Action.get).2
    pick channel.path channel.pin bytes
  close := do
    let channel := (← Action.get).2
    Action.note ⟨.debug, "Closing RTOS ADC device",
      [("pin", Text.number channel.pin.toNat), ("path", channel.path.text)]⟩

end Rtos

end Peripherals.Adc

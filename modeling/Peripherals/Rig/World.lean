import Peripherals.Adc.Iio
import Peripherals.Adc.Rtos
import Peripherals.Adc.Simulated
import Peripherals.Gpio.Simulated
import Peripherals.Gpio.Sysfs
import Peripherals.Pwm.Simulated
import Peripherals.Pwm.Sysfs
import Peripherals.Recorder
/-!
The world behind all devices: files, and the memory of simulated devices and recorders by their
serial numbers. Each backend gives a driver over the whole world.
-/

set_option autoImplicit false

namespace Peripherals

/-- The state of everything that devices work on. -/
structure World (φ : Type) where
  files : φ
  banks : Assoc Nat Adc.Bank := ∅
  lines : Assoc Nat Gpio.Lines := ∅
  outputs : Assoc Nat Pwm.Outputs := ∅
  recorders : Assoc Nat Recorder := ∅

namespace World

variable {φ : Type}

def filesLens : Lens (World φ) φ where
  get w := w.files
  set files w := { w with files }

def bankLens (serial : Nat) : Lens (World φ) Adc.Bank where
  get w := w.banks.getD serial {}
  set b w := { w with banks := w.banks.put serial b }

def linesLens (serial : Nat) : Lens (World φ) Gpio.Lines where
  get w := w.lines.getD serial {}
  set l w := { w with lines := w.lines.put serial l }

def outputsLens (serial : Nat) : Lens (World φ) Pwm.Outputs where
  get w := w.outputs.getD serial {}
  set o w := { w with outputs := w.outputs.put serial o }

def recorderLens (serial : Nat) : Lens (World φ) Recorder where
  get w := w.recorders.getD serial {}
  set r w := { w with recorders := w.recorders.put serial r }

end World

namespace Adc

def Driver.zoom {σ τ C : Type} (l : Lens σ τ) (d : Driver τ C) : Driver σ C where
  name := d.name
  claim c := Action.zoom l (d.claim c)
  read := Action.zoom l.beside d.read
  close := Action.zoom l.beside d.close

/-- What an analog module works on. -/
inductive Backend where
  | simulated (serial : Nat) (channels : UInt32)
  | iio (converter : Iio)
  | rtos (converter : Rtos)
  | recorded (serial : Nat)
  | quiet

namespace Backend

def Channel (F : Type) : Backend → Type
  | .simulated _ _ | .recorded _ | .quiet => UInt32
  | .iio _ => Iio.Channel F
  | .rtos _ => Rtos.Channel F

def driver {φ F : Type} (fs : FileSystem φ F) : (b : Backend) → Driver (World φ) (b.Channel F)
  | .simulated serial channels => (Bank.driver channels).zoom (World.bankLens serial)
  | .iio i => (i.driver fs).zoom World.filesLens
  | .rtos r => (r.driver fs).zoom World.filesLens
  | .recorded serial => Recorder.adc.zoom (World.recorderLens serial)
  | .quiet => Quiet.adc

end Backend

end Adc

namespace Gpio

def Driver.zoom {σ τ C : Type} (l : Lens σ τ) (d : Driver τ C) : Driver σ C where
  name := d.name
  claim c := Action.zoom l (d.claim c)
  read := Action.zoom l.beside d.read
  write level := Action.zoom l.beside (d.write level)
  close := Action.zoom l.beside d.close

/-- What a module of digital lines works on. -/
inductive Backend where
  | simulated (serial : Nat)
  | sysfs (tree : Sysfs)
  | recorded (serial : Nat)
  | quiet

namespace Backend

def Channel (F : Type) : Backend → Type
  | .simulated _ | .recorded _ => UInt32
  | .sysfs _ => Sysfs.Line F
  | .quiet => Bool

def driver {φ F : Type} (fs : FileSystem φ F) : (b : Backend) → Driver (World φ) (b.Channel F)
  | .simulated serial => Lines.driver.zoom (World.linesLens serial)
  | .sysfs g => (Sysfs.driver fs g).zoom World.filesLens
  | .recorded serial => Recorder.gpio.zoom (World.recorderLens serial)
  | .quiet => Quiet.gpio

end Backend

end Gpio

namespace Pwm

def Driver.zoom {σ τ C : Type} (l : Lens σ τ) (d : Driver τ C) : Driver σ C where
  name := d.name
  claim c := Action.zoom l (d.claim c)
  setRunning on := Action.zoom l.beside (d.setRunning on)
  setPeriod period := Action.zoom l.beside (d.setPeriod period)
  setDuty duty := Action.zoom l.beside (d.setDuty duty)
  setPolarity polarity := Action.zoom l.beside (d.setPolarity polarity)
  close := Action.zoom l.beside d.close

/-- What a module of pulse-width outputs works on. -/
inductive Backend where
  | simulated (serial : Nat)
  | sysfs (chip : Sysfs)
  | recorded (serial : Nat)
  | quiet

namespace Backend

def Channel : Backend → Type
  | .simulated _ | .recorded _ | .quiet => UInt32
  | .sysfs _ => Sysfs.Channel

def driver {φ F : Type} (fs : FileSystem φ F) : (b : Backend) → Driver (World φ) b.Channel
  | .simulated serial => Outputs.driver.zoom (World.outputsLens serial)
  | .sysfs s => (Sysfs.driver fs s).zoom World.filesLens
  | .recorded serial => Recorder.pwm.zoom (World.recorderLens serial)
  | .quiet => Quiet.pwm

end Backend

end Pwm

end Peripherals

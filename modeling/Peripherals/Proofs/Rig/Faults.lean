import Peripherals.Proofs.Desk.Faults
import Peripherals.Rig.World
/-!
The faults of backends. Main statements: no backend of any kind fails with a refusal of the desk,
whatever file system it works on.
-/

set_option autoImplicit false

namespace Peripherals

open Peripherals.Action (FailsOnly)

/-! ### Attributes -/

private theorem FileSystem.isPresent_ofDevice {φ F : Type} (fs : FileSystem φ F) (p : Path) :
    FailsOnly Fault.OfDevice (fs.isPresent p : Action Fault φ Bool) := by
  refine (FailsOnly.attempt _).bind fun answer => ?_
  split <;> exact .pure _

namespace Attribute

variable {φ F : Type} (fs : FileSystem φ F)

private theorem onFile_ofDevice {α : Type} (work : Action IoError (φ × F) α) :
    FailsOnly Fault.OfDevice (onFile work) :=
  fun p => FailsOnly.mapError (fun e => Fault.ofIo_ofDevice p.2.path e) p

private theorem openRead_ofDevice (path : Path) : FailsOnly Fault.OfDevice (openRead fs path) :=
  (FailsOnly.mapError (Fault.ofIo_ofDevice path)).bind fun _ => .pure _

private theorem openUpdate_ofDevice (path : Path) : FailsOnly Fault.OfDevice (openUpdate fs path) :=
  (FailsOnly.mapError (Fault.ofIo_ofDevice path)).bind fun _ => .pure _

private theorem store_ofDevice (path : Path) (value : String) :
    FailsOnly Fault.OfDevice (store fs path value) :=
  .mapError (Fault.ofIo_ofDevice path)

private theorem valueOf_ofDevice {path : Path} {bytes : List UInt8} {f : Fault}
    (failed : valueOf path bytes = .error f) : f.OfDevice := by
  unfold valueOf at failed
  split at failed
  · cases failed
    exact Fault.ofIo_ofDevice path _
  · dsimp only at failed
    split at failed
    · cases failed
      trivial
    · cases failed

private theorem read_ofDevice : FailsOnly Fault.OfDevice (read fs) := by
  refine (onFile_ofDevice _).bind fun _ => (onFile_ofDevice _).bind fun bytes => ?_
  exact FailsOnly.get.bind fun _ => .ofExcept fun _ => valueOf_ofDevice

private theorem write_ofDevice (value : String) : FailsOnly Fault.OfDevice (write fs value) :=
  (onFile_ofDevice _).bind fun _ => onFile_ofDevice _

end Attribute

/-! ### Analog inputs -/

namespace Adc

private theorem Driver.Aloof.zoom {σ τ C : Type} {d : Driver τ C} (aloof : d.Aloof) (l : Lens σ τ) :
    (d.zoom l).Aloof where
  claim c := (aloof.claim c).zoom l
  read := aloof.read.zoom l.beside
  close := aloof.close.zoom l.beside

theorem Bank.aloof (channels : UInt32) : (Bank.driver channels).Aloof where
  claim c := by
    dsimp only [Bank.driver]
    exact .guarded (.fail trivial) fun _ => (FailsOnly.modify _).bind fun _ => .pure _
  read := by
    refine FailsOnly.get.bind fun p => ?_
    dsimp only
    split
    · exact (FailsOnly.set _).bind fun _ => (FailsOnly.fail trivial).bind fun _ => .pure _
    · exact FailsOnly.pure _
  close := by
    refine FailsOnly.get.bind fun p => ?_
    dsimp only
    split
    · exact (FailsOnly.set _).bind fun _ =>
        (FailsOnly.fail (Fault.ofIo_ofDevice _ _)).bind fun _ => .set _
    · exact FailsOnly.set _

private theorem Iio.aloof {φ F : Type} (fs : FileSystem φ F) (i : Iio) : (i.driver fs).Aloof where
  claim c := (Attribute.openRead_ofDevice fs _).bind fun _ =>
    (FailsOnly.note _).bind fun _ => .pure _
  read := by
    refine FailsOnly.zoom _ ((Attribute.read_ofDevice fs).bind fun value => ?_)
    refine FailsOnly.get.bind fun p => .ofExcept fun f failed => ?_
    unfold Iio.countOf at failed
    split at failed
    · cases failed
    · cases failed
      trivial
  close := FailsOnly.get.bind fun _ => .note _

private theorem Rtos.onFile_ofDevice {φ F α : Type} (work : Action IoError (φ × F) α) :
    FailsOnly Fault.OfDevice (Rtos.onFile work) :=
  fun p => FailsOnly.mapError (fun e => Fault.ofIo_ofDevice p.2.path e) p

private theorem Rtos.pick_ofDevice {φ F : Type} (path : Path) (pin : UInt32) (bytes : List UInt8) :
    FailsOnly Fault.OfDevice
      (Rtos.pick path pin bytes : Action Fault (φ × Rtos.Channel F) Int32) := by
  unfold Rtos.pick
  split
  · exact .fail trivial
  · refine (FailsOnly.note _).bind fun _ => ?_
    split
    · exact FailsOnly.pure _
    · exact .fail trivial

private theorem Rtos.aloof {φ F : Type} (fs : FileSystem φ F) (r : Rtos) : (r.driver fs).Aloof where
  claim c := by
    dsimp only [Rtos.driver]
    split
    · exact .fail trivial
    · exact (FailsOnly.mapError (Fault.ofIo_ofDevice _)).bind fun _ =>
        (FailsOnly.note _).bind fun _ => .pure _
  read := by
    have rest (u : PUnit.{1}) : FailsOnly Fault.OfDevice (do
        let bytes ← onFile (fs.readUpTo (Sample.size * samplesPerRead))
        let channel := (← Action.get).2
        pick channel.path channel.pin bytes : Action Fault (φ × Rtos.Channel F) Int32) :=
      (Rtos.onFile_ofDevice _).bind fun _ => FailsOnly.get.bind fun _ => Rtos.pick_ofDevice _ _ _
    dsimp only [Rtos.driver]
    split
    · exact (Rtos.onFile_ofDevice _).bind rest
    · exact (Rtos.onFile_ofDevice _).bind rest
  close := FailsOnly.get.bind fun _ => .note _

end Adc

/-! ### Digital lines -/

namespace Gpio

private theorem Driver.Aloof.zoom {σ τ C : Type} {d : Driver τ C} (aloof : d.Aloof) (l : Lens σ τ) :
    (d.zoom l).Aloof where
  claim c := (aloof.claim c).zoom l
  read := aloof.read.zoom l.beside
  write level := (aloof.write level).zoom l.beside
  close := aloof.close.zoom l.beside

theorem Lines.aloof : Lines.driver.Aloof where
  claim c := by
    dsimp only [Lines.driver]
    exact .guarded (.modify _) fun _ => (FailsOnly.modify _).bind fun _ => .pure _
  read := FailsOnly.get.bind fun _ => .pure _
  write _ := .modify _
  close := .modify _

namespace Sysfs

variable {φ F : Type} (fs : FileSystem φ F) (g : Sysfs)

private theorem exportLine_ofDevice (line : UInt32) : FailsOnly Fault.OfDevice (exportLine fs g line) :=
  (Attribute.store_ofDevice fs _ _).bind fun _ => .note _

private theorem configure_ofDevice (c : Config) : FailsOnly Fault.OfDevice (configure fs g c) := by
  refine (Attribute.store_ofDevice fs _ _).bind fun _ => ?_
  refine .guarded (Attribute.store_ofDevice fs _ _) fun _ => ?_
  split
  · exact Attribute.openRead_ofDevice fs _
  · exact Attribute.openUpdate_ofDevice fs _

private theorem undoExport_ofDevice (line : UInt32) : FailsOnly Fault.OfDevice
    (undoExport fs g line) := by
  refine (FailsOnly.attempt _).bind fun answer => ?_
  split
  · exact .pure _
  · exact .note _

private theorem claim_ofDevice (c : Config) : FailsOnly Fault.OfDevice (claim fs g c) := by
  refine (fs.isPresent_ofDevice _).bind fun _ =>
    .guarded (exportLine_ofDevice fs g _) fun _ => ?_
  refine (configure_ofDevice fs g c).attempt_bind (fun _ => .pure _) fun f ofDevice => ?_
  exact .guarded (undoExport_ofDevice fs g _) fun _ => .fail ofDevice

private theorem aloof : (driver fs g).Aloof where
  claim := claim_ofDevice fs g
  read := by
    refine FailsOnly.zoom _ ((Attribute.read_ofDevice fs).bind fun value => ?_)
    refine FailsOnly.get.bind fun p => .ofExcept fun f failed => ?_
    unfold levelOf at failed
    split at failed
    · cases failed
    · split at failed
      · cases failed
      · cases failed
        trivial
  write _ := (Attribute.write_ofDevice fs _).zoom _
  close := by
    refine FailsOnly.get.bind fun p => ?_
    dsimp only
    split
    · exact ((Attribute.store_ofDevice fs _ _).zoom _).bind fun _ =>
        (FailsOnly.modify _).bind fun _ => .note _
    · exact .pure _

end Sysfs

end Gpio

/-! ### Pulse-width outputs -/

namespace Pwm

private theorem Driver.Aloof.zoom {σ τ C : Type} {d : Driver τ C} (aloof : d.Aloof) (l : Lens σ τ) :
    (d.zoom l).Aloof where
  claim c := (aloof.claim c).zoom l
  setRunning on := (aloof.setRunning on).zoom l.beside
  setPeriod period := (aloof.setPeriod period).zoom l.beside
  setDuty duty := (aloof.setDuty duty).zoom l.beside
  setPolarity polarity := (aloof.setPolarity polarity).zoom l.beside
  close := aloof.close.zoom l.beside

private theorem Outputs.update_ofDevice (f : Output → Output) :
    FailsOnly Fault.OfDevice (Outputs.update f) := by
  refine FailsOnly.get.bind fun p => ?_
  dsimp only
  split
  · exact .set _
  · exact .fail trivial

theorem Outputs.aloof : Outputs.driver.Aloof where
  claim _ := (FailsOnly.modify _).bind fun _ => .pure _
  setRunning _ := Outputs.update_ofDevice _
  setPeriod _ := Outputs.update_ofDevice _
  setDuty _ := Outputs.update_ofDevice _
  setPolarity _ := Outputs.update_ofDevice _
  close := .modify _

namespace Sysfs

variable {φ F : Type} (fs : FileSystem φ F) (s : Sysfs)

private theorem exportChannel_ofDevice (pin : UInt32) :
    FailsOnly Fault.OfDevice (exportChannel fs s pin) :=
  (Attribute.store_ofDevice fs _ _).bind fun _ => .note _

private theorem standsStill_ofDevice (dir : Path) : FailsOnly Fault.OfDevice (standsStill fs dir) := by
  refine (FailsOnly.attempt _).bind fun answer => ?_
  split <;> exact .pure _

private theorem configure_ofDevice (c : Config) : FailsOnly Fault.OfDevice (configure fs s c) := by
  have store (path : Path) (value : String) := Attribute.store_ofDevice fs path value
  refine (standsStill_ofDevice fs _).bind fun still => .guarded (store _ _) fun _ => ?_
  exact (store _ _).bind fun _ => (store _ _).bind fun _ => (store _ _).bind fun _ => store _ _

private theorem undoExport_ofDevice (pin : UInt32) : FailsOnly Fault.OfDevice
    (undoExport fs s pin) := by
  refine (FailsOnly.attempt _).bind fun answer => ?_
  split
  · exact .pure _
  · exact .note _

private theorem claim_ofDevice (c : Config) : FailsOnly Fault.OfDevice (claim fs s c) := by
  refine (fs.isPresent_ofDevice _).bind fun _ =>
    .guarded (exportChannel_ofDevice fs s _) fun _ => ?_
  refine (configure_ofDevice fs s c).attempt_bind (fun _ => .pure _) fun f ofDevice => ?_
  exact .guarded (undoExport_ofDevice fs s _) fun _ => .fail ofDevice

private theorem set_ofDevice (name value : String) : FailsOnly Fault.OfDevice (set fs name value) :=
  FailsOnly.get.bind fun _ => (Attribute.store_ofDevice fs _ _).zoom _

private theorem aloof : (driver fs s).Aloof where
  claim := claim_ofDevice fs s
  setRunning _ := set_ofDevice fs _ _
  setPeriod _ := set_ofDevice fs _ _
  setDuty _ := set_ofDevice fs _ _
  setPolarity _ := set_ofDevice fs _ _
  close := by
    refine FailsOnly.get.bind fun p => ?_
    dsimp only
    split
    · exact ((Attribute.store_ofDevice fs _ _).zoom _).bind fun _ =>
        (FailsOnly.modify _).bind fun _ => .note _
    · exact .pure _

end Sysfs

end Pwm

/-! ### Recorders and quiet devices -/

namespace Recorder

private theorem call_ofDevice (name : String) (words : List String) :
    FailsOnly Fault.OfDevice (call name words) := by
  intro r f failed
  unfold call at failed
  dsimp only at failed
  split at failed
  · cases failed
    trivial
  · cases failed

private theorem callOn_ofDevice (name : String) (words : List String) :
    FailsOnly Fault.OfDevice (callOn name words) :=
  FailsOnly.get.bind fun _ => (call_ofDevice _ _).zoom _

private theorem adc_aloof : Recorder.adc.Aloof where
  claim _ := (call_ofDevice _ _).bind fun _ => .pure _
  read := (callOn_ofDevice _ _).bind fun _ => FailsOnly.get.bind fun _ => .pure _
  close := callOn_ofDevice _ _

private theorem gpio_aloof : Recorder.gpio.Aloof where
  claim _ := (call_ofDevice _ _).bind fun _ => .pure _
  read := (callOn_ofDevice _ _).bind fun _ => FailsOnly.get.bind fun _ => .pure _
  write _ := (callOn_ofDevice _ _).bind fun _ => .modify _
  close := callOn_ofDevice _ _

private theorem pwm_aloof : Recorder.pwm.Aloof where
  claim _ := (call_ofDevice _ _).bind fun _ => .pure _
  setRunning _ := callOn_ofDevice _ _
  setPeriod _ := callOn_ofDevice _ _
  setDuty _ := callOn_ofDevice _ _
  setPolarity _ := callOn_ofDevice _ _
  close := callOn_ofDevice _ _

end Recorder

namespace Quiet

variable {σ : Type}

private theorem adc_aloof : (Quiet.adc : Adc.Driver σ UInt32).Aloof where
  claim _ := .pure _
  read := FailsOnly.get.bind fun _ => .pure _
  close := .pure _

private theorem gpio_aloof : (Quiet.gpio : Gpio.Driver σ Bool).Aloof where
  claim _ := .pure _
  read := FailsOnly.get.bind fun _ => .pure _
  write _ := .modify _
  close := .pure _

private theorem pwm_aloof : (Quiet.pwm : Pwm.Driver σ UInt32).Aloof where
  claim _ := .pure _
  setRunning _ := .pure _
  setPeriod _ := .pure _
  setDuty _ := .pure _
  setPolarity _ := .pure _
  close := .pure _

end Quiet

/-! ### All backends -/

section Backends

variable {φ F : Type} (fs : FileSystem φ F)

theorem Adc.Backend.aloof (b : Adc.Backend) : (b.driver fs).Aloof := by
  cases b with
  | simulated serial channels => exact (Bank.aloof channels).zoom _
  | iio converter => exact (Iio.aloof fs converter).zoom _
  | rtos converter => exact (Rtos.aloof fs converter).zoom _
  | recorded serial => exact Recorder.adc_aloof.zoom _
  | quiet => exact Quiet.adc_aloof

theorem Gpio.Backend.aloof (b : Gpio.Backend) : (b.driver fs).Aloof := by
  cases b with
  | simulated serial => exact Lines.aloof.zoom _
  | sysfs tree => exact (Sysfs.aloof fs tree).zoom _
  | recorded serial => exact Recorder.gpio_aloof.zoom _
  | quiet => exact Quiet.gpio_aloof

theorem Pwm.Backend.aloof (b : Pwm.Backend) : (b.driver fs).Aloof := by
  cases b with
  | simulated serial => exact Outputs.aloof.zoom _
  | sysfs chip => exact (Sysfs.aloof fs chip).zoom _
  | recorded serial => exact Recorder.pwm_aloof.zoom _
  | quiet => exact Quiet.pwm_aloof

end Backends

end Peripherals

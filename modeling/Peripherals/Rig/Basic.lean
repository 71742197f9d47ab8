import Peripherals.Rig.World
/-!
Rigs: any number of modules over one world, all drawing their handles from one counter. A module is
addressed by its kind and serial number.
-/

set_option autoImplicit false

namespace Peripherals

/-- One module of a rig. -/
structure ModuleRef where
  kind : ModuleKind
  serial : Nat
  deriving DecidableEq, Repr

def ModuleRef.label (r : ModuleRef) : String :=
  "ModuleOps(" ++ r.kind.label ++ ")"

/-- An analog module: its backend, and what it has leased out. -/
structure Adc.Module (F : Type) where
  backend : Adc.Backend
  leases : HandleTable UInt32 (Lease Adc.Config (backend.Channel F)) := ∅

/-- A module of digital lines. -/
structure Gpio.Module (F : Type) where
  backend : Gpio.Backend
  leases : HandleTable UInt32 (Lease Gpio.Config (backend.Channel F)) := ∅

/-- A module of pulse-width outputs. -/
structure Pwm.Module where
  backend : Pwm.Backend
  leases : HandleTable UInt32 (Lease Pwm.Signal backend.Channel) := ∅

/-- All modules, and what they share. -/
structure Rig (φ F : Type) where
  world : World φ
  counter : Nat := 1
  adcs : Assoc Nat (Adc.Module F) := ∅
  gpios : Assoc Nat (Gpio.Module F) := ∅
  pwms : Assoc Nat Pwm.Module := ∅
  nextSerial : Nat := 0

namespace Rig

variable {φ F α : Type}

/-- Adds an analog module; its backend may depend on its serial number. -/
def addAdc (backend : Nat → Adc.Backend) (r : Rig φ F) : ModuleRef × Rig φ F :=
  (⟨.adc, r.nextSerial⟩, { r with
    adcs := r.adcs.put r.nextSerial { backend := backend r.nextSerial }
    nextSerial := r.nextSerial + 1 })

def addGpio (backend : Nat → Gpio.Backend) (r : Rig φ F) : ModuleRef × Rig φ F :=
  (⟨.gpio, r.nextSerial⟩, { r with
    gpios := r.gpios.put r.nextSerial { backend := backend r.nextSerial }
    nextSerial := r.nextSerial + 1 })

def addPwm (backend : Nat → Pwm.Backend) (r : Rig φ F) : ModuleRef × Rig φ F :=
  (⟨.pwm, r.nextSerial⟩, { r with
    pwms := r.pwms.put r.nextSerial { backend := backend r.nextSerial }
    nextSerial := r.nextSerial + 1 })

def gone (kind : ModuleKind) : Fault :=
  .moduleNotRequested kind.name

variable (fs : FileSystem φ F)

def onAdc (serial : Nat)
    (work : (C : Type) → Adc.Driver (World φ) C → Action Fault (Desk (World φ) Adc.Config C) α) :
    Action Fault (Rig φ F) α := fun r =>
  match r.adcs.get? serial with
  | none => ⟨.error (gone .adc), [], r⟩
  | some m =>
    let o := work _ (m.backend.driver fs) ⟨r.world, r.counter, m.leases⟩
    ⟨o.answer, o.events, { r with
      world := o.state.device
      counter := o.state.counter
      adcs := r.adcs.put serial ⟨m.backend, o.state.leases⟩ }⟩

def onGpio (serial : Nat)
    (work : (C : Type) → Gpio.Driver (World φ) C → Action Fault (Desk (World φ) Gpio.Config C) α) :
    Action Fault (Rig φ F) α := fun r =>
  match r.gpios.get? serial with
  | none => ⟨.error (gone .gpio), [], r⟩
  | some m =>
    let o := work _ (m.backend.driver fs) ⟨r.world, r.counter, m.leases⟩
    ⟨o.answer, o.events, { r with
      world := o.state.device
      counter := o.state.counter
      gpios := r.gpios.put serial ⟨m.backend, o.state.leases⟩ }⟩

def onPwm (serial : Nat)
    (work : (C : Type) → Pwm.Driver (World φ) C → Action Fault (Desk (World φ) Pwm.Signal C) α) :
    Action Fault (Rig φ F) α := fun r =>
  match r.pwms.get? serial with
  | none => ⟨.error (gone .pwm), [], r⟩
  | some m =>
    let o := work _ (m.backend.driver fs) ⟨r.world, r.counter, m.leases⟩
    ⟨o.answer, o.events, { r with
      world := o.state.device
      counter := o.state.counter
      pwms := r.pwms.put serial ⟨m.backend, o.state.leases⟩ }⟩

def activeCount (r : Rig φ F) (m : ModuleRef) : Nat :=
  match m.kind with
  | .adc => ((r.adcs.get? m.serial).map (·.leases.size)).getD 0
  | .gpio => ((r.gpios.get? m.serial).map (·.leases.size)).getD 0
  | .pwm => ((r.pwms.get? m.serial).map (·.leases.size)).getD 0

/-- Ends a module: what it still has leased out is closed, and the module is gone. -/
def dispose (m : ModuleRef) : Action Fault (Rig φ F) Unit :=
  match m.kind with
  | .adc => do
    onAdc fs m.serial fun _ d => d.device.teardown
    Action.modify fun r => { r with adcs := r.adcs.erase m.serial }
  | .gpio => do
    onGpio fs m.serial fun _ d => d.device.teardown
    Action.modify fun r => { r with gpios := r.gpios.erase m.serial }
  | .pwm => do
    onPwm fs m.serial fun _ d => d.device.teardown
    Action.modify fun r => { r with pwms := r.pwms.erase m.serial }

def modules (r : Rig φ F) : List ModuleRef :=
  (r.adcs.keys.map (ModuleRef.mk .adc) ++ r.gpios.keys.map (ModuleRef.mk .gpio) ++
    r.pwms.keys.map (ModuleRef.mk .pwm)).mergeSort (fun a b => a.serial ≤ b.serial)

def worldLens : Lens (Rig φ F) (World φ) where
  get r := r.world
  set world r := { r with world }

end Rig

end Peripherals

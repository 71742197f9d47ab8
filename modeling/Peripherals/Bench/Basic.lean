import Peripherals.Adc.Scaled
import Peripherals.Board.Configured
import Peripherals.FileTree.Access
import Peripherals.Gpio.Switch
import Peripherals.Json.Document
import Peripherals.Pwm.Parameters
/-!
A bench: a rig over a file tree on which modules, boards, owned pins and adapters are kept under names,
so that a script can use them step by step.
-/

set_option autoImplicit false

namespace Peripherals

open FileTree (OpenFile)

namespace Bench

/-- An owned resource and the serial number of its module. -/
inductive Pin where
  | adc (serial : Nat) (x : Owned Adc.Config)
  | gpio (serial : Nat) (x : Owned Gpio.Config)
  | pwm (serial : Nat) (x : Owned Pwm.Signal)

/-- An owned resource behind a capability. -/
inductive Adapter where
  | scaled (serial : Nat) (x : Adc.Scaled)
  | switch (serial : Nat) (x : Gpio.Switch)
  | parameters (serial : Nat) (x : Pwm.Parameters)

/-- A channel that was opened on a backend without a desk. -/
inductive Channel where
  | adc (backend : Adc.Backend) (channel : backend.Channel OpenFile)
  | gpio (backend : Gpio.Backend) (channel : backend.Channel OpenFile)
  | pwm (backend : Pwm.Backend) (channel : backend.Channel)

/-- A backend that a script looks into, by its serial number. -/
inductive Probe where
  | bank (serial : Nat)
  | lines (serial : Nat)
  | outputs (serial : Nat)
  | recorder (serial : Nat)
  | quiet

/-- Why a step failed. -/
inductive Trouble where
  | refused (r : Refusal)
  | misread (m : Json.Misreading)
  | noSuchName (name : String)
  /-- The step does not fit the thing that has the name. -/
  | misfit
  deriving DecidableEq

def Pin.module : Pin → ModuleRef
  | .adc n _ => ⟨.adc, n⟩
  | .gpio n _ => ⟨.gpio, n⟩
  | .pwm n _ => ⟨.pwm, n⟩

def Adapter.pin : Adapter → Pin
  | .scaled n x => .adc n x.pin
  | .switch n x => .gpio n x.pin
  | .parameters n x => .pwm n x.pin

end Bench

/-- Everything a script has on its bench. -/
structure Bench where
  rig : Rig FileTree OpenFile
  handles : Assoc String Handle := ∅
  modules : Assoc String ModuleRef := ∅
  probes : Assoc String Bench.Probe := ∅
  pins : Assoc String Bench.Pin := ∅
  adapters : Assoc String Bench.Adapter := ∅
  boards : Assoc String (Board (Rig FileTree OpenFile)) := ∅
  channels : Assoc String Bench.Channel := ∅

namespace Bench

def ofTree (t : FileTree) : Bench :=
  { rig := { world := { files := t } } }

abbrev Work (α : Type) : Type :=
  Action Trouble Bench α

def rigLens : Lens Bench (Rig FileTree OpenFile) where
  get b := b.rig
  set rig b := { b with rig }

def onRig {α : Type} (x : Action Fault (Rig FileTree OpenFile) α) : Work α :=
  Action.zoom rigLens (Action.mapError (Trouble.refused ∘ Refusal.fault) x)

def answerOf {α : Type} (x : Except Refusal α) : Work α :=
  Action.ofExcept (x.mapError .refused)

def find {α : Type} (things : Bench → Assoc String α) (name : String) : Work α := do
  match (things (← Action.get)).get? name with
  | some x => return x
  | none => Action.fail (.noSuchName name)

def held (b : Bench) : List ModuleRef :=
  b.modules.pairs.map (·.2) ++ b.pins.pairs.map (·.2.module) ++
    b.adapters.pairs.map (·.2.pin.module) ++ b.boards.pairs.flatMap (·.2.builtModules)

def disposeAll : List ModuleRef → Work Unit
  | [] => pure ()
  | m :: ms => do
    onRig (Rig.dispose FileTree.fileSystem m)
    disposeAll ms

def sweep : Work Unit := do
  let b ← Action.get
  disposeAll (b.rig.modules.filter fun m => !b.held.contains m)

def dropPin : Pin → Work Unit
  | .adc n x => onRig (Rig.onAdc FileTree.fileSystem n fun _ d => x.drop d.device)
  | .gpio n x => onRig (Rig.onGpio FileTree.fileSystem n fun _ d => x.drop d.device)
  | .pwm n x => onRig (Rig.onPwm FileTree.fileSystem n fun _ d => x.drop d.device)

/-- Puts a pin under a name; one that was there is dropped afterwards. -/
def putPin (name : String) (x : Pin) : Work Unit := do
  let old := (← Action.get).pins.get? name
  Action.modify fun b => { b with pins := b.pins.put name x }
  match old with
  | some y => dropPin y
  | none => pure ()

/-- Puts an adapter under a name; one that was there is dropped afterwards. -/
def putAdapter (name : String) (x : Adapter) : Work Unit := do
  let old := (← Action.get).adapters.get? name
  Action.modify fun b => { b with adapters := b.adapters.put name x }
  match old with
  | some y => dropPin y.pin
  | none => pure ()

end Bench

end Peripherals

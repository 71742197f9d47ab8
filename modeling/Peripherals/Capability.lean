import Peripherals.Action
import Peripherals.Fault
/-!
Capabilities: a uniform view of resources as things that are read, switched or set, by feature names.
-/

set_option autoImplicit false

namespace Peripherals

/-- Why a capability was not exercised: the resource failed, or the feature does not exist. -/
inductive Refusal where
  | fault (f : Fault)
  | unsupported (message : String)
  deriving DecidableEq

namespace Refusal

def message : Refusal → String
  | .fault f => f.message
  | .unsupported m => m

/-- The answer of a thing that can be set but not asked. -/
def noValue (name : String) : Refusal :=
  .unsupported ("Get value for '" ++ name ++ "' not supported by this device")

def noState (name : String) : Refusal :=
  .unsupported ("State query for '" ++ name ++ "' not supported by this device")

end Refusal

/-- A step at a desk, seen as the exercise of a capability. -/
def Action.capable {σ α : Type} (x : Action Fault σ α) : Action Refusal σ α :=
  Action.mapError Refusal.fault x

end Peripherals

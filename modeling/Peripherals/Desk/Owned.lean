import Peripherals.Desk.Basic
/-!
Owned resources: a leased resource that its owner releases at most once, at the latest when it is
dropped.
-/

set_option autoImplicit false

namespace Peripherals

/-- A leased resource in its owner's hands. -/
structure Owned (S : Type) where
  handle : Handle
  settings : S
  released : Bool := false

namespace Owned

variable {σ S C : Type} (dev : Device σ S C)

/-- Gives the resource back unless that was done before. If it fails the owner may try again. -/
def release (x : Owned S) : Action Fault (Desk σ S C) (Owned S) :=
  if x.released then pure x
  else do
    dev.release x.handle
    return { x with released := true }

/-- Gives the resource back when its owner goes away; a failure is only reported. -/
def drop (x : Owned S) : Action Fault (Desk σ S C) Unit :=
  if x.released then pure ()
  else do
    match ← (Action.attempt (dev.release x.handle) : Action Fault _ _) with
    | .ok () => pure ()
    | .error e => Action.note ⟨.warn, "Failed to release " ++ dev.trade.noun,
        [dev.keyDetail (dev.trade.key x.settings), ("error", e.message)]⟩

end Owned

end Peripherals

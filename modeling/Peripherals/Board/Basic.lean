import Peripherals.Action
import Peripherals.Fault
import Peripherals.Assoc
import Peripherals.ModuleKind
import Peripherals.Platform
import Peripherals.Rig.Basic
/-!
Boards: a board offers modules by name. A module is built when it is first requested and is shared by
all who request it; uses are counted, and an idle module is kept.
-/

set_option autoImplicit false

namespace Peripherals

/-- How a board comes by a module: the name of its backend, and how it is built in a state `τ`. -/
structure Offer (τ : Type) where
  backend : String
  build : τ → ModuleRef × τ

/-- A module that was built, and its uses. -/
structure Installed where
  module : ModuleRef
  uses : Nat
  deriving DecidableEq, Repr

/-- A board: its platform, what it offers, and what it has built. -/
structure Board (τ : Type) where
  platform : Platform
  offers : Assoc ModuleKind (Offer τ) := ∅
  installed : Assoc ModuleKind Installed := ∅

namespace Board

variable {τ : Type}

/-- Adds an offer; an earlier one for the same kind is replaced. -/
def offer (b : Board τ) (kind : ModuleKind) (o : Offer τ) : Board τ :=
  { b with offers := b.offers.put kind o }

def available (b : Board τ) : List ModuleKind :=
  ModuleKind.all.filter b.offers.contains

def isAvailable (b : Board τ) (name : String) : Bool :=
  match ModuleKind.ofName? name with
  | some kind => b.offers.contains kind
  | none => false

def backend? (b : Board τ) (kind : ModuleKind) : Option String :=
  (b.offers.get? kind).map (·.backend)

def useCount (b : Board τ) (kind : ModuleKind) : Nat :=
  ((b.installed.get? kind).map (·.uses)).getD 0

def kindsLabel (kinds : List ModuleKind) : String :=
  "[" ++ String.intercalate ", " (kinds.map (·.label)) ++ "]"

def label (b : Board τ) : String :=
  "ModuleRegistry \x7b platform: " ++ b.platform.label ++ ", modules: " ++ kindsLabel b.available ++
    " \x7d"

def offerNamed? (b : Board τ) (name : String) : Option (ModuleKind × Offer τ) := do
  let kind ← ModuleKind.ofName? name
  let o ← b.offers.get? kind
  return (kind, o)

/-- The module of a kind, built from its offer if it is not there yet. -/
def install (kind : ModuleKind) (o : Offer τ) : Action Fault (Board τ × τ) Installed := fun (b, t) =>
  match b.installed.get? kind with
  | some i => ⟨.ok i, [], (b, t)⟩
  | none =>
    let (module, t) := o.build t
    let i : Installed := ⟨module, 0⟩
    ⟨.ok i, [⟨.info, "Creating module", [("module", kind.name), ("backend", o.backend)]⟩],
      ({ b with installed := b.installed.put kind i }, t)⟩

def setUses (kind : ModuleKind) (i : Installed) (uses : Nat) : Action Fault (Board τ × τ) Unit :=
  Action.modify fun (b, t) => ({ b with installed := b.installed.put kind { i with uses } }, t)

def request (name : String) : Action Fault (Board τ × τ) ModuleRef := do
  match (← Action.get).1.offerNamed? name with
  | none => Action.fail (.moduleNotAvailable name)
  | some (kind, o) =>
    let i ← install kind o
    setUses kind i (i.uses + 1)
    Action.note ⟨.debug, "Module requested",
      [("module", kind.name), ("refs", Text.number (i.uses + 1))]⟩
    return i.module

/-- Gives back one use of a module of this kind. Only the board's own module counts, and only while
it is in use. -/
def releaseAs (kind : ModuleKind) (m : ModuleRef) : Action Fault (Board τ × τ) Unit := do
  match (← Action.get).1.installed.get? kind with
  | none => Action.fail (.moduleNotRequested kind.name)
  | some i =>
    if i.uses = 0 ∨ i.module ≠ m then Action.fail (.moduleNotRequested kind.name)
    else
      setUses kind i (i.uses - 1)
      Action.note ⟨.debug, "Module released",
        [("module", kind.name), ("refs", Text.number (i.uses - 1))]⟩
      if i.uses = 1 then
        Action.note ⟨.info, "Module idle", [("module", kind.name)]⟩

def release (m : ModuleRef) : Action Fault (Board τ × τ) Unit :=
  releaseAs m.kind m

/-- One more use of the module of a kind. A module that turns out to be of another kind is given back
at once and refused. -/
def requestKind (kind : ModuleKind) : Action Fault (Board τ × τ) ModuleRef := do
  let m ← request kind.name
  if m.kind = kind then return m
  else
    match ← Action.attempt (releaseAs kind m) with
    | .ok () => pure ()
    | .error e => Action.note ⟨.warn, "Failed to roll back module request",
        [("module", kind.name), ("error", e.message)]⟩
    Action.fail (.notSupported ("module '" ++ kind.name ++ "' returned " ++ m.kind.name ++ " ops"))

def builtModules (b : Board τ) : List ModuleRef :=
  b.installed.pairs.map (·.2.module)

end Board

end Peripherals

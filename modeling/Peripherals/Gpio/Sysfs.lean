import Peripherals.Attribute
import Peripherals.Gpio.Driver
/-!
Digital lines of the Linux attribute tree. A line that the kernel does not show yet is exported when
it is claimed, and only such a line is unexported when it is closed.
-/

set_option autoImplicit false

namespace Peripherals.Gpio

/-- The lines below the root of the attribute tree. -/
structure Sysfs where
  root : Path
  deriving DecidableEq, Repr

namespace Sysfs

/-- An open line. -/
structure Line (F : Type) where
  line : UInt32
  /-- This program exported the line and has not unexported it since. -/
  exported : Bool
  value : Attribute F

variable {φ F : Type}

def classDir (g : Sysfs) : Path :=
  g.root.join "class/gpio"

def lineDir (g : Sysfs) (line : UInt32) : Path :=
  g.classDir.join (Path.numbered "gpio" line)

def directionWord (c : Config) : String :=
  match c.direction, c.initial with
  | .input, _ => "in"
  | .output, true => "high"
  | .output, false => "low"

def levelOf (path : Path) (value : String) : Except Fault Bool :=
  if value == "0" then .ok false
  else if value == "1" then .ok true
  else .error (.unreadable path value)

def valueLens : Lens (φ × Line F) (φ × Attribute F) where
  get p := (p.1, p.2.value)
  set q p := (q.1, { p.2 with value := q.2 })

section

variable (fs : FileSystem φ F) (g : Sysfs)

def exportLine (line : UInt32) : Action Fault φ Unit := do
  Attribute.store fs (g.classDir.join "export") (Text.number line.toNat)
  Action.note ⟨.debug, "Exported GPIO line", [("id", Text.number line.toNat)]⟩

def unexportLine (line : UInt32) : Action Fault φ Unit :=
  Attribute.store fs (g.classDir.join "unexport") (Text.number line.toNat)

def configure (c : Config) : Action Fault φ (Attribute F) := do
  let dir := g.lineDir c.line
  Attribute.store fs (dir.join "direction") (directionWord c)
  if c.direction = .input ∧ c.edge ≠ .none then
    Attribute.store fs (dir.join "edge") c.edge.name
  match c.direction with
  | .input => Attribute.openRead fs (dir.join "value")
  | .output => Attribute.openUpdate fs (dir.join "value")

def undoExport (line : UInt32) : Action Fault φ Unit := do
  match ← Action.attempt (unexportLine fs g line) with
  | .ok () => pure ()
  | .error e => Action.note ⟨.warn, "Failed to unexport GPIO line",
      [("id", Text.number line.toNat), ("error", e.message)]⟩

def claim (c : Config) : Action Fault φ (Line F) := do
  let present ← fs.isPresent (g.lineDir c.line)
  if !present then exportLine fs g c.line
  match ← Action.attempt (configure fs g c) with
  | .ok value => return ⟨c.line, !present, value⟩
  | .error e =>
    if !present then undoExport fs g c.line
    Action.fail e

def close : Action Fault (φ × Line F) Unit := do
  let line := (← Action.get).2
  if line.exported then
    Action.zoom Lens.fst (unexportLine fs g line.line)
    Action.modify fun p => (p.1, { p.2 with exported := false })
    Action.note ⟨.debug, "Unexported GPIO line", [("id", Text.number line.line.toNat)]⟩

def driver : Driver φ (Line F) where
  name := "sysfs"
  claim := claim fs g
  read := Action.zoom valueLens do
    let value ← Attribute.read fs
    Action.ofExcept (levelOf (← Action.get).2.path value)
  write level := Action.zoom valueLens (Attribute.write fs (if level then "1" else "0"))
  close := close fs g

end

end Sysfs

end Peripherals.Gpio

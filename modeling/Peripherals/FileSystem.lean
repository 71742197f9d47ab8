import Peripherals.Action
import Peripherals.IoError
import Peripherals.Path
/-!
File systems: what the drivers need of one. The state and the open files are left abstract, so that
everything said about the drivers holds over any file system.
-/

set_option autoImplicit false

namespace Peripherals

/-- What stands at the end of a path. -/
inductive FileKind where
  | file | directory | other
  deriving DecidableEq, Repr

/-- A file system with state `φ` and open files `F`. -/
structure FileSystem (φ F : Type) where
  locate : Path → Action IoError φ FileKind
  readFile : Path → Action IoError φ (List UInt8)
  writeFile : Path → List UInt8 → Action IoError φ Unit
  openRead : Path → Action IoError φ F
  openUpdate : Path → Action IoError φ F
  rewind : Action IoError (φ × F) Unit
  readAll : Action IoError (φ × F) (List UInt8)
  readUpTo : Nat → Action IoError (φ × F) (List UInt8)
  /-- Writes at the position; the file never becomes shorter. -/
  overwrite : List UInt8 → Action IoError (φ × F) Unit
  /-- A control request to the device behind an open file. -/
  control : UInt64 → Action IoError (φ × F) Unit

namespace FileSystem

/-- A file system as a part of a larger state. -/
def zoom {σ φ F : Type} (l : Lens σ φ) (fs : FileSystem φ F) : FileSystem σ F where
  locate p := Action.zoom l (fs.locate p)
  readFile p := Action.zoom l (fs.readFile p)
  writeFile p bytes := Action.zoom l (fs.writeFile p bytes)
  openRead p := Action.zoom l (fs.openRead p)
  openUpdate p := Action.zoom l (fs.openUpdate p)
  rewind := Action.zoom l.beside fs.rewind
  readAll := Action.zoom l.beside fs.readAll
  readUpTo limit := Action.zoom l.beside (fs.readUpTo limit)
  overwrite bytes := Action.zoom l.beside (fs.overwrite bytes)
  control request := Action.zoom l.beside (fs.control request)

variable {φ F ε : Type} (fs : FileSystem φ F)

def isPresent (p : Path) : Action ε φ Bool := do
  match ← Action.attempt (fs.locate p) with
  | .ok _ => return true
  | .error _ => return false

def isFile (p : Path) : Action ε φ Bool := do
  match ← Action.attempt (fs.locate p) with
  | .ok kind => return kind == .file
  | .error _ => return false

end FileSystem

end Peripherals

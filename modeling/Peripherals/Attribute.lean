import Peripherals.Fault
import Peripherals.FileSystem
import Peripherals.Text.Blank
import Peripherals.Text.Utf8
/-!
Attributes: small text files that hold one value. A value is read whole and without the blanks
around it.
-/

set_option autoImplicit false

namespace Peripherals

/-- An open attribute and the path under which it was opened. -/
structure Attribute (F : Type) where
  path : Path
  file : F

namespace Attribute

variable {φ F : Type} (fs : FileSystem φ F)

def valueOf (path : Path) (bytes : List UInt8) : Except Fault String :=
  match Text.Utf8.decode? bytes with
  | none => .error (.ofIo path IoError.notText)
  | some s =>
    let value := Text.trim s
    if value.isEmpty then .error (.shortRead path) else .ok (String.ofList value)

def fileLens : Lens (φ × Attribute F) (φ × F) where
  get p := (p.1, p.2.file)
  set q p := (q.1, { p.2 with file := q.2 })

/-- Works on the open file; an error names the attribute's path. -/
def onFile {α : Type} (work : Action IoError (φ × F) α) : Action Fault (φ × Attribute F) α :=
  fun p => Action.mapError (Fault.ofIo p.2.path) (Action.zoom fileLens work) p

def openRead (path : Path) : Action Fault φ (Attribute F) := do
  let file ← Action.mapError (Fault.ofIo path) (fs.openRead path)
  return ⟨path, file⟩

def openUpdate (path : Path) : Action Fault φ (Attribute F) := do
  let file ← Action.mapError (Fault.ofIo path) (fs.openUpdate path)
  return ⟨path, file⟩

def read : Action Fault (φ × Attribute F) String := do
  onFile fs.rewind
  let bytes ← onFile fs.readAll
  let path := (← Action.get).2.path
  Action.ofExcept (valueOf path bytes)

def write (value : String) : Action Fault (φ × Attribute F) Unit := do
  onFile fs.rewind
  onFile (fs.overwrite (Text.bytesOf value))

def store (path : Path) (value : String) : Action Fault φ Unit :=
  Action.mapError (Fault.ofIo path) (fs.writeFile path (Text.bytesOf value))

def load (path : Path) : Action Fault φ String := do
  let a ← openRead fs path
  let (answer, _) ← Action.beside a (read fs)
  Action.ofExcept answer

end Attribute

end Peripherals

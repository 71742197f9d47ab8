import Peripherals.FileSystem
import Peripherals.FileTree.Basic
/-!
A file tree as a file system: what opening, reading and writing do to a tree.
-/

set_option autoImplicit false

namespace Peripherals.FileTree

/-- An open file: its number and the next byte. -/
inductive OpenFile where
  | file (number : Nat) (position : Nat)
  | directory
  deriving DecidableEq, Repr

/-- The number of the file at a place that is opened for writing. A hook goes off. -/
def touch (t : FileTree) (place : Place) : Node → Except IoError (Nat × FileTree)
  | .file n => .ok (n, t)
  | .hook n entries => .ok (n, (t.setNode place (.file n)).createAll entries)
  | _ => .error (.system IoError.isADirectory)

def locate (p : Path) : Action IoError FileTree FileKind := fun t =>
  match t.lookup p with
  | .error e => ⟨.error e, [], t⟩
  | .ok (_, .directory) => ⟨.ok .directory, [], t⟩
  | .ok (_, .link _) => ⟨.ok .other, [], t⟩
  | .ok _ => ⟨.ok .file, [], t⟩

def openRead (p : Path) : Action IoError FileTree OpenFile := fun t =>
  match t.lookup p with
  | .error e => ⟨.error e, [], t⟩
  | .ok (_, .file n) | .ok (_, .hook n _) => ⟨.ok (.file n 0), [], t⟩
  | .ok _ => ⟨.ok .directory, [], t⟩

def openUpdate (p : Path) : Action IoError FileTree OpenFile := fun t =>
  match t.lookup p with
  | .error e => ⟨.error e, [], t⟩
  | .ok (place, node) =>
    match t.touch place node with
    | .error e => ⟨.error e, [], t⟩
    | .ok (n, t) => ⟨.ok (.file n 0), [], t⟩

/-- Writes a whole file; one that does not exist is created in a directory that does. -/
def writeFile (p : Path) (bytes : List UInt8) : Action IoError FileTree Unit := fun t =>
  match t.resolve .created p with
  | .error e => ⟨.error e, [], t⟩
  | .ok place =>
    match t.node? place with
    | none => ⟨.ok (), [], t.newFile place bytes⟩
    | some node =>
      match t.touch place node with
      | .error e => ⟨.error e, [], t⟩
      | .ok (n, t) => ⟨.ok (), [], t.setBytes n bytes⟩

def bytesFrom (t : FileTree) (n position : Nat) : List UInt8 :=
  (t.bytes n).drop position

def readUpTo (limit : Nat) : Action IoError (FileTree × OpenFile) (List UInt8) := fun (t, f) =>
  match f with
  | .directory => ⟨.error (.system IoError.isADirectory), [], (t, f)⟩
  | .file n position =>
    let bytes := (t.bytesFrom n position).take limit
    ⟨.ok bytes, [], (t, .file n (position + bytes.length))⟩

def readAll : Action IoError (FileTree × OpenFile) (List UInt8) := fun (t, f) =>
  match f with
  | .directory => ⟨.error (.system IoError.isADirectory), [], (t, f)⟩
  | .file n position =>
    let bytes := t.bytesFrom n position
    ⟨.ok bytes, [], (t, .file n (position + bytes.length))⟩

def rewind : Action IoError (FileTree × OpenFile) Unit := fun (t, f) =>
  match f with
  | .directory => ⟨.ok (), [], (t, f)⟩
  | .file n _ => ⟨.ok (), [], (t, .file n 0)⟩

/-- A list of bytes with others laid over it from a position on. -/
def overlay (old : List UInt8) (position : Nat) (new : List UInt8) : List UInt8 :=
  old.take position ++ List.replicate (position - old.length) 0 ++ new ++
    old.drop (position + new.length)

def overwrite (bytes : List UInt8) : Action IoError (FileTree × OpenFile) Unit := fun (t, f) =>
  match f with
  | .directory => ⟨.error (.system IoError.isADirectory), [], (t, f)⟩
  | .file n position =>
    ⟨.ok (), [], (t.setBytes n (overlay (t.bytes n) position bytes),
      .file n (position + bytes.length))⟩

/-- The one control request that a plain file understands; it has no effect. -/
def harmlessRequest : UInt32 := 0x5451

def control (request : UInt64) : Action IoError (FileTree × OpenFile) Unit := fun s =>
  if request.toUInt32 = harmlessRequest then ⟨.ok (), [], s⟩
  else ⟨.error (.system IoError.notATerminal), [], s⟩

def fileSystem : FileSystem FileTree OpenFile where
  locate := locate
  readFile p := do
    let f ← openRead p
    let (answer, _) ← Action.beside f readAll
    Action.ofExcept answer
  writeFile := writeFile
  openRead := openRead
  openUpdate := openUpdate
  rewind := rewind
  readAll := readAll
  readUpTo := readUpTo
  overwrite := overwrite
  control := control

/-- What stands at a path, to be shown. -/
inductive Shown where
  | file (bytes : List UInt8)
  | directory
  | link (target : String)
  | hook
  deriving DecidableEq, Repr

def shown (t : FileTree) : Node → Shown
  | .file n => .file (t.bytes n)
  | .directory => .directory
  | .link target => .link target
  | .hook _ _ => .hook

/-- What a path shows; a link at its end is not followed. -/
def show? (t : FileTree) (p : Path) : Option Shown :=
  match t.resolve .kept p with
  | .error _ => none
  | .ok place => (t.node? place).map t.shown

def listing (t : FileTree) : List (String × Shown) :=
  t.nodes.pairs.map fun (place, node) => (String.intercalate "/" place, t.shown node)

end Peripherals.FileTree

import Peripherals.Assoc
import Peripherals.IoError
import Peripherals.Path
/-!
File trees: directories, files and symbolic links below one directory, as a value. A file can carry a
hook that adds entries to the tree when the file is first written, as a kernel does with its export
files.
-/

set_option autoImplicit false

namespace Peripherals

/-- Something to create in a tree. -/
inductive Entry where
  | file (path : Path) (bytes : List UInt8)
  | directory (path : Path)
  | link (path : Path) (target : String)
  /-- An empty file that creates entries when it is first opened for writing. -/
  | hook (path : Path) (entries : List Entry)

instance : Inhabited Entry := ⟨.directory ⟨""⟩⟩

namespace FileTree

/-- A place in a tree: the names on the way from the top. -/
abbrev Place : Type := List String

/-- What stands at a place. A file's bytes are kept apart under its number, because an open file
outlives its name. -/
inductive Node where
  | file (number : Nat)
  | directory
  | link (target : String)
  | hook (number : Nat) (entries : List Entry)
  deriving Inhabited

end FileTree

/-- A tree of files. The top is a directory without a name. -/
structure FileTree where
  nodes : Assoc FileTree.Place FileTree.Node := ∅
  contents : Assoc Nat (List UInt8) := ∅
  nextNumber : Nat := 0
  deriving Inhabited

namespace FileTree

/-- The place of the directory that holds the tree, and of all that lies outside. Nothing is known to
stand there. -/
def outside : Place := [".."]

def node? (t : FileTree) (p : Place) : Option Node :=
  if p.isEmpty || p == outside then some .directory else t.nodes.get? p

def bytes (t : FileTree) (number : Nat) : List UInt8 :=
  t.contents.getD number []

def setBytes (t : FileTree) (number : Nat) (bytes : List UInt8) : FileTree :=
  { t with contents := t.contents.put number bytes }

def setNode (t : FileTree) (p : Place) (n : Node) : FileTree :=
  { t with nodes := t.nodes.put p n }

def linkLimit : Nat := 40

def nameLimit : Nat := 255

def pathLimit : Nat := 4095

/-- The names in a path. A slash at the end shows as an empty name, which asks for a directory. -/
def namesOf (text : String) : List String :=
  let names := (text.splitOn "/").filter (fun s => !s.isEmpty)
  if text.toList.getLast? == some '/' then names ++ [""] else names

def above (p : Place) : Place :=
  if p.isEmpty || p == outside then outside else p.dropLast

/-- Where a path starts that is read in a directory. -/
def startOf (dir : Place) (text : String) : Place :=
  if text.toList.head? == some '/' then outside else dir

/-- What is done with the last name of a path. -/
inductive Ending where
  | kept
  | followed
  /-- A file is made if none stands there. A link is followed, and a name with a slash behind it is
  taken for a directory's. -/
  | created
  deriving DecidableEq, Repr

/-- Walks from a directory along names. The answer is the place reached, where nothing needs to stand
if only its last name is missing. Links on the way are followed. A name has to be short enough once a
directory is searched for it. -/
def walk (t : FileTree) (ending : Ending) (links : Nat) (dir : Place) (names : List String) :
    Except IoError Place :=
  match names with
  | [] => .ok dir
  | name :: rest =>
    if name.isEmpty || name == "." then walk t ending links dir rest
    else if name == ".." then walk t ending links (above dir) rest
    else if ending = .created ∧ rest = [""] then .error (.system IoError.isADirectory)
    else if nameLimit < name.utf8ByteSize then .error (.system IoError.nameTooLong)
    else
      let here := dir ++ [name]
      match t.node? here with
      | none =>
        if rest.isEmpty && dir != outside then .ok here else .error (.system IoError.noEntry)
      | some .directory => walk t ending links here rest
      | some (.link target) =>
        if rest.isEmpty && ending == .kept then .ok here
        else match links with
          | 0 => .error (.system IoError.linkLoop)
          | n + 1 =>
            if target.isEmpty then .error (.system IoError.noEntry)
            else walk t ending n (startOf dir target) (namesOf target ++ rest)
      | some _ => if rest.isEmpty then .ok here else .error (.system IoError.notADirectory)
termination_by (links, names.length)

def resolve (t : FileTree) (ending : Ending) (p : Path) : Except IoError Place :=
  if p.text.toList.any (fun c => c.toNat == 0) then .error IoError.badName
  else if p.text.isEmpty then .error (.system IoError.noEntry)
  else if pathLimit < p.text.utf8ByteSize then .error (.system IoError.nameTooLong)
  else t.walk ending linkLimit (startOf [] p.text) (namesOf p.text)

def lookup (t : FileTree) (p : Path) : Except IoError (Place × Node) := do
  let place ← t.resolve .followed p
  match t.node? place with
  | some n => return (place, n)
  | none => throw (.system IoError.noEntry)

def newFile (t : FileTree) (p : Place) (bytes : List UInt8) : FileTree :=
  { nodes := t.nodes.put p (.file t.nextNumber)
    contents := t.contents.put t.nextNumber bytes
    nextNumber := t.nextNumber + 1 }

/-- Makes the directories of a path that are missing, those of the whole path or all but the last. -/
def makeDirectories (t : FileTree) (names : List String) : FileTree :=
  (List.range names.length).foldl (fun t n =>
    match t.walk .followed linkLimit [] (names.take (n + 1)) with
    | .ok place => if (t.node? place).isNone then t.setNode place .directory else t
    | .error _ => t) t

/-- Adds an entry with the directories above it. A file that exists is given new bytes in place. -/
def create (t : FileTree) : Entry → FileTree
  | .file p bytes =>
    let t := t.makeDirectories (namesOf p.text).dropLast
    match t.resolve .created p with
    | .error _ => t
    | .ok place =>
      match t.node? place with
      | some (.file n) => t.setBytes n bytes
      | some (.hook n _) => (t.setNode place (.file n)).setBytes n bytes
      | some _ => t
      | none => t.newFile place bytes
  | .directory p => t.makeDirectories (namesOf p.text)
  | .link p target =>
    let t := t.makeDirectories (namesOf p.text).dropLast
    match t.resolve .kept p with
    | .error _ => t
    | .ok place => t.setNode place (.link target)
  | .hook p entries =>
    let t := t.makeDirectories (namesOf p.text).dropLast
    match t.resolve .kept p with
    | .error _ => t
    | .ok place =>
      { t.newFile place [] with nodes := t.nodes.put place (.hook t.nextNumber entries) }

def createAll (t : FileTree) (entries : List Entry) : FileTree :=
  entries.foldl create t

def remove (t : FileTree) (p : Path) : FileTree :=
  match t.resolve .kept p with
  | .error _ => t
  | .ok place => { t with nodes := ⟨t.nodes.pairs.filter fun e => !place.isPrefixOf e.1⟩ }

end FileTree

end Peripherals

import Peripherals.FileTree.Access
import Peripherals.Text.Utf8
/-!
Shelves: regular files by their paths, where writes fail as a script says. Main statements: what a
write that is done leaves in every file, and that reading through a file gives what stands in it.
-/

set_option autoImplicit false

namespace Peripherals

/-- Regular files by their paths, none of which is ever made. The script tells which of the next writes
fail. -/
structure Shelf where
  files : Assoc Path (List UInt8) := ∅
  script : List Bool := []

namespace Shelf

def bytes (t : Shelf) (p : Path) : List UInt8 :=
  t.files.getD p []

def lieBelow (t : Shelf) (dir : Path) : Bool :=
  t.files.keys.any fun p => (dir.text.toList ++ ['/']).isPrefixOf p.text.toList

def locate (p : Path) : Action IoError Shelf FileKind := fun t =>
  if t.files.contains p then ⟨.ok .file, [], t⟩
  else if t.lieBelow p then ⟨.ok .directory, [], t⟩
  else ⟨.error (.system IoError.noEntry), [], t⟩

def openFile (p : Path) : Action IoError Shelf (Path × Nat) := fun t =>
  if t.files.contains p then ⟨.ok (p, 0), [], t⟩ else ⟨.error (.system IoError.noEntry), [], t⟩

def writeFile (p : Path) (bytes : List UInt8) : Action IoError Shelf Unit := fun t =>
  if ¬ t.files.contains p then ⟨.error (.system IoError.noEntry), [], t⟩
  else if t.script.headD false then
    ⟨.error (.plain .timedOut), [], { t with script := t.script.tail }⟩
  else ⟨.ok (), [], { files := t.files.put p bytes, script := t.script.tail }⟩

def rewind : Action IoError (Shelf × Path × Nat) Unit := fun (t, p, _) =>
  ⟨.ok (), [], (t, p, 0)⟩

def readUpTo (limit : Nat) : Action IoError (Shelf × Path × Nat) (List UInt8) :=
  fun (t, p, position) =>
    let bytes := ((t.bytes p).drop position).take limit
    ⟨.ok bytes, [], (t, p, position + bytes.length)⟩

def readAll : Action IoError (Shelf × Path × Nat) (List UInt8) := fun (t, p, position) =>
  ⟨.ok ((t.bytes p).drop position), [], (t, p, (t.bytes p).length)⟩

def overwrite (bytes : List UInt8) : Action IoError (Shelf × Path × Nat) Unit :=
  fun (t, p, position) =>
    ⟨.ok (), [], ({ t with files := t.files.put p (FileTree.overlay (t.bytes p) position bytes) }, p,
      position + bytes.length)⟩

def fileSystem : FileSystem Shelf (Path × Nat) where
  locate := locate
  readFile p := do
    let file ← openFile p
    let (answer, _) ← Action.beside file readAll
    Action.ofExcept answer
  writeFile := writeFile
  openRead := openFile
  openUpdate := openFile
  rewind := rewind
  readAll := readAll
  readUpTo := readUpTo
  overwrite := overwrite
  control _ := fun q => ⟨.error (.system IoError.notATerminal), [], q⟩

/-- Shelves where a write to `outlet` puts up new files, and where `blocked` cannot be written. -/
def exporting (outlet : Path) (blocked : Option Path) (files : List (Path × List UInt8)) :
    FileSystem Shelf (Path × Nat) :=
  { fileSystem with
    writeFile := fun p bytes t =>
      if blocked = some p then ⟨.error (.system IoError.isADirectory), [], t⟩
      else if p = outlet then ⟨.ok (), [], { t with files := ⟨files⟩ }⟩
      else writeFile p bytes t }

/-- Line 0 with what stands in its value, and the attribute that unexports it. -/
def lines (blocked : Option Path) (value : String := "1") : FileSystem Shelf (Path × Nat) :=
  exporting ⟨"/sys/class/gpio/export"⟩ blocked [(⟨"/sys/class/gpio/gpio0/direction"⟩, []),
    (⟨"/sys/class/gpio/gpio0/value"⟩, Text.bytesOf value), (⟨"/sys/class/gpio/unexport"⟩, [])]

/-- Channel 0 of chip 0, at rest, and the attribute that unexports it. -/
def channels : FileSystem Shelf (Path × Nat) :=
  exporting ⟨"/sys/class/pwm/pwmchip0/export"⟩ none [
    (⟨"/sys/class/pwm/pwmchip0/pwm0/enable"⟩, Text.bytesOf "0"),
    (⟨"/sys/class/pwm/pwmchip0/pwm0/duty_cycle"⟩, []), (⟨"/sys/class/pwm/pwmchip0/pwm0/period"⟩, []),
    (⟨"/sys/class/pwm/pwmchip0/pwm0/polarity"⟩, []), (⟨"/sys/class/pwm/pwmchip0/unexport"⟩, [])]

theorem bytes_of_written {p : Path} {bytes : List UInt8} {t : Shelf}
    (written : (writeFile p bytes t).answer = .ok ()) (other : Path) :
    (writeFile p bytes t).state.bytes other = if other = p then bytes else t.bytes other := by
  unfold writeFile at written ⊢
  split at written
  · cases written
  split at written
  · cases written
  next found fate =>
  rw [if_neg found, if_neg fate]
  simp only [Shelf.bytes, Assoc.getD, Assoc.get?_put]
  split <;> rfl

theorem bytes_of_unwritten {p : Path} {bytes : List UInt8} {t : Shelf} {e : IoError}
    (failed : (writeFile p bytes t).answer = .error e) (other : Path) :
    (writeFile p bytes t).state.bytes other = t.bytes other := by
  unfold writeFile at failed ⊢
  split
  · rfl
  split
  · rfl
  next found fate =>
  rw [if_neg found, if_neg fate] at failed
  cases failed

theorem bytes_of_elsewhere {p other : Path} (bytes : List UInt8) (t : Shelf) (differs : p ≠ other) :
    (writeFile p bytes t).state.bytes other = t.bytes other := by
  cases written : (writeFile p bytes t).answer with
  | error e => exact bytes_of_unwritten written other
  | ok u => rw [bytes_of_written written, if_neg differs.symm]

theorem locate_state (p : Path) (t : Shelf) : (locate p t).state = t := by
  unfold locate
  split
  · rfl
  · split <;> rfl

theorem openFile_state (p : Path) (t : Shelf) : (openFile p t).state = t := by
  unfold openFile
  split <;> rfl

end Shelf

end Peripherals

import Peripherals.Decimal.Reading
import Peripherals.Setting.Basic
import Peripherals.Text.Blank
import Peripherals.Text.Escaped
/-!
Environment variables as settings. The name of a variable is a path of keys, its value a small
language of flags, numbers, texts, lists and groups; a value outside this language is a text as a
whole.
-/

set_option autoImplicit false

namespace Peripherals.Setting

open Peripherals.Text (ahead isVisible takeBytes? unescape?)

namespace Variable

def isGap (c : Char) : Bool :=
  c == ' ' || c == '\t' || c == '\n' || c == '\r' || c.toNat == 12

def skipGaps (s : List Char) : List Char :=
  s.dropWhile isGap

def isDelimiter (c : Char) : Bool :=
  c == ',' || c == '{' || c == '}' || c == '[' || c == ']'

/-- What a word stands for: a number with a point, a number without, or itself. -/
def word (s : List Char) : Scalar :=
  let whole : Scalar :=
    match Text.unsigned? (Nat.pow 2 64) s, Text.signed? (Nat.pow 2 63) s with
    | some n, _ => .unsigned n
    | none, some n => .signed n
    | none, none => .text (String.ofList s)
  if s.contains '.' then
    match Decimal.float? s with
    | some x => .real x
    | none => whole
  else whole

/-- Why a value is not read. -/
inductive Flaw where
  | foreign
  /-- A text is cut inside a character. No reading goes on behind it. -/
  | torn
  deriving DecidableEq, Repr

/-- Takes a setting from the front of a text and hands on the rest. -/
abbrev Reader (α : Type) : Type := List Char → Except Flaw (α × List Char)

/-- Items with commas between them up to a closing bracket; at most so many. A comma may stand behind
the last. -/
def items {α : Type} (item : Reader α) (close : Char) : Nat → Reader (List α)
  | 0, _ => .error .foreign
  | n + 1, s =>
    match s with
    | [] => .error .foreign
    | c :: t =>
      if c == close then .ok ([], t)
      else do
        let (v, s) ← item (c :: t)
        match s with
        | ',' :: s => (items item close n s).map (ahead [v])
        | d :: s => if d == close then .ok ([v], s) else .error .foreign
        | [] => .error .foreign

/-- The characters up to the closing quote as they are written, and what follows it. -/
def literal? : List Char → Option (List Char × List Char)
  | [] => none
  | '"' :: s => some ([], s)
  | '\\' :: c :: s => (literal? s).map (ahead ['\\', c])
  | c :: s => (literal? s).map (ahead [c])

/-- What stands between quotes. Of the text in front of the first escape, as many bytes are kept as it
has characters: all of it if every character has one byte. -/
def meaning (written : List Char) : Except Flaw (List Char) :=
  let front := written.takeWhile (· != '\\')
  if !front.all isVisible then .error .foreign
  else if front.length == written.length then .ok written
  else
    match takeBytes? front.length front with
    | none => .error .torn
    | some kept =>
      match unescape? (written.drop front.length ++ ['"']) with
      | some (escaped, []) => .ok (kept ++ escaped)
      | _ => .error .foreign

def quoted : Reader String := fun s =>
  match literal? s with
  | none => .error .foreign
  | some (written, s) => (meaning written).map fun text => (String.ofList text, s)

def isKeyChar (c : Char) : Bool :=
  let n := c.toNat
  (65 ≤ n && n ≤ 90) || (97 ≤ n && n ≤ 122) || (48 ≤ n && n ≤ 57) || c == '_' || c == '-'

def key : Reader String := fun s =>
  match skipGaps s with
  | '"' :: s => (quoted s).map fun x => (x.1, skipGaps x.2)
  | s =>
    if (s.takeWhile isKeyChar).isEmpty then .error .foreign
    else .ok (String.ofList (s.takeWhile isKeyChar), skipGaps (s.dropWhile isKeyChar))

def field (value : Reader Setting) : Reader (String × Setting) := fun s => do
  let (k, s) ← key s
  match s with
  | '=' :: s => do
    let (v, s) ← value s
    return ((k, v), s)
  | _ => .error .foreign

def scalar : Reader Scalar
  | 't' :: 'r' :: 'u' :: 'e' :: s => .ok (.flag true, s)
  | 'f' :: 'a' :: 'l' :: 's' :: 'e' :: s => .ok (.flag false, s)
  | '"' :: s => (quoted s).map fun x => (.text x.1, x.2)
  | '\'' :: s =>
    match s with
    | c :: '\'' :: s => .ok (.letter c, s)
    | _ => .error .foreign
  | s =>
    .ok (word (Text.trim (s.takeWhile (!isDelimiter ·))), s.dropWhile (!isDelimiter ·))

/-- Fields under their keys; of two with one key the last counts. -/
def grouped (fields : List (String × Setting)) : List (String × Setting) :=
  fields.foldl (fun known f => put f.1 f.2 known) []

/-- A value with the space around it; it nests at most so deep. -/
def value : Nat → Reader Setting
  | 0, _ => .error .foreign
  | n + 1, s => do
    let (v, s) ← match skipGaps s with
      | '{' :: s => (items (field (value n)) '}' (s.length + 1) s).map fun x =>
          (Setting.group .environment (grouped x.1), x.2)
      | '[' :: s => (items (value n) ']' (s.length + 1) s).map fun x =>
          (Setting.list .environment x.1, x.2)
      | s => (scalar s).map fun x => (Setting.scalar .environment x.1, x.2)
    return (v, skipGaps s)

/-- What the value of a variable stands for, unless it holds a torn text. A value outside the language
keeps the space around it. -/
def read? (given : String) : Option Setting :=
  let s := given.toList
  match value (s.length + 1) s with
  | .ok (v, []) => some v
  | .error .torn => none
  | _ => some (.scalar .environment (.text given))

/-- The beginning that the names of all variables share, in any case. -/
def nameStart : String := "ARTIK_"

/-- What stands behind the common beginning of a name, in lower case. Space around a name or around
this part of it does not count. -/
def ownName? (name : String) : Option (List Char) :=
  let low := (Text.trim name.toList).map Char.toLower
  let start := nameStart.toList.map Char.toLower
  if start.isPrefixOf low then some (Text.trim (low.drop start.length)) else none

/-- The keys of a name: two underscores or a point stand between them. -/
def keys : List Char → List Char → List (List Char)
  | part, [] => [part.reverse]
  | part, '_' :: '_' :: s => part.reverse :: keys [] s
  | part, '.' :: s => part.reverse :: keys [] s
  | part, c :: s => keys (c :: part) s

/-- The path of keys that a variable sets. A name with an empty key sets nothing. -/
def path? (name : String) : Option (List String) := do
  let parts := keys [] (← ownName? name)
  if parts.any (·.isEmpty) then none else some (parts.map String.ofList)

def nest (v : Setting) : List String → Setting
  | [] => v
  | k :: ks => .group .environment [(k, nest v ks)]

/-- The settings of a variable with this path of keys. -/
def setting? (keys : List String) (given : String) : Option Setting :=
  (read? given).map (nest · keys)

end Variable

/-- Variables set one after the other; of two values for one name the later counts. -/
def assign (vars : List (String × String)) : List (String × String) :=
  vars.foldl (fun known x => put x.1 x.2 known) []

/-- The variables of an environment that are ours, with their paths of keys. -/
def ours (vars : List (String × String)) : List (List String × String) :=
  (assign vars).filterMap fun x => (Variable.path? x.1).map (·, x.2)

/-- The settings of an environment, unless a variable holds a torn text; of two variables for one key
the later counts. -/
def ofEnvironment? (vars : List (String × String)) : Option Setting := do
  let settings ← (ours vars).mapM fun x => Variable.setting? x.1 x.2
  return settings.foldl merge (.group .environment [])

end Peripherals.Setting

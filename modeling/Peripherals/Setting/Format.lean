import Peripherals.Decimal.Shortest
import Peripherals.Document.Format
import Peripherals.Setting.Basic
import Peripherals.Text.Quoted
/-!
Settings as a document format. What does not fit is named with its path of keys and its source.
-/

set_option autoImplicit false

namespace Peripherals.Setting

open Peripherals.Document

/-- What was found in the place of something else. -/
inductive Found where
  | scalar (value : Scalar)
  | list
  | group

/-- Why a setting does not fit. -/
inductive Problem where
  | wrongType (found : Found) (expected : String)
  | wrongValue (found : Found) (expected : String)
  | unknownName (given : String) (known : List String)

/-- A setting that does not fit, and where it stands. -/
structure Misplaced where
  problem : Problem
  path : List String
  source : Source

/-- A setting under a path of keys. -/
structure Placed where
  path : List String
  setting : Setting

def found : Setting → Found
  | .scalar _ v => .scalar v
  | .list _ _ => .list
  | .group _ _ => .group

def Found.text : Found → String
  | .scalar (.text s) => "string " ++ Text.quoted s
  | .scalar (.letter c) => "string " ++ Text.quoted (String.singleton c)
  | .scalar (.flag b) => "bool " ++ (if b then "true" else "false")
  | .scalar (.signed n) => "signed int \x60" ++ String.ofList (Text.signedDecimal n) ++ "\x60"
  | .scalar (.unsigned n) => "unsigned int \x60" ++ Text.number n ++ "\x60"
  | .scalar (.real x) => "float \x60" ++ Decimal.Style.display.write x ++ "\x60"
  | .list => "sequence"
  | .group => "map"

def choices (names : List String) : String :=
  let ticked (s : String) := "\x60" ++ s ++ "\x60"
  match names with
  | [] => "none"
  | [a] => ticked a
  | [a, b] => ticked a ++ " or " ++ ticked b
  | names => "one of " ++ String.intercalate ", " (names.map ticked)

def Problem.text : Problem → String
  | .wrongType f expected => "invalid type: found " ++ f.text ++ ", expected " ++ expected
  | .wrongValue f expected => "invalid value " ++ f.text ++ ", expected " ++ expected
  | .unknownName given known =>
    "unknown variant: found \x60" ++ given ++ "\x60, expected \x60" ++ choices known ++ "\x60"

def Source.text : Source → String
  | .file p => p.plain ++ " TOML file"
  | .environment => "\x60" ++ "ARTIK_" ++ "\x60 environment variable(s)"

/-- A path of keys as it is written in its source: in a file below the default profile, in the
environment in upper case. -/
def Source.key (path : List String) : Source → String
  | .file _ => String.intercalate "." ("default" :: path)
  | .environment =>
    String.intercalate "." (path.map fun k => String.ofList (k.toList.map Char.toUpper))

def Misplaced.text (m : Misplaced) : String :=
  m.problem.text ++ (if m.path.isEmpty then "" else " for key " ++ Text.quoted (m.source.key m.path))
    ++ " in " ++ m.source.text

abbrev Read (α : Type) : Type := Except Misplaced α

namespace Placed

variable {α : Type} (v : Placed)

def misfit (p : Problem) : Read α :=
  .error ⟨p, v.path, v.setting.source⟩

def notA (expected : String) : Read α :=
  v.misfit (.wrongType v.setting.found expected)

def below (key : String) (part : Setting) : Placed :=
  ⟨v.path ++ [key], part⟩

def readText (expected : String) : Read String :=
  match v.setting with
  | .scalar _ (.text s) => .ok s
  | .scalar _ (.letter c) => .ok (String.singleton c)
  | _ => v.notA expected

def readFlag : Read Bool :=
  match v.setting with
  | .scalar _ (.flag b) => .ok b
  | _ => v.notA "a boolean"

def readWord (bits : Nat) : Read Nat :=
  let expected := "u" ++ Text.number bits
  let judge (n : Int) : Read Nat :=
    if 0 ≤ n ∧ n < Nat.pow 2 bits then .ok n.toNat
    else v.misfit (.wrongValue v.setting.found expected)
  match v.setting with
  | .scalar _ (.signed n) => judge n
  | .scalar _ (.unsigned n) => judge n
  | _ => v.notA expected

/-- A name. A group stands for the first of its keys, but no value fits under that key. -/
def readChoice (title : String) (names : List String) : Read String :=
  let refuse (v : Placed) (s : String) : Read String := v.misfit (.unknownName s names)
  match v.setting with
  | .scalar _ (.text s) => if s ∈ names then .ok s else refuse v s
  | .group _ fields =>
    match firstByName fields with
    | none => v.notA "enum"
    | some (k, w) => if k ∈ names then (v.below k w).notA "unit" else refuse (v.below k w) k
  | _ => v.notA ("enum " ++ title)

/-- A group with the fields of a record, or a list of their values in order. Of several faults in a
group the first in the order of keys is named. What is too much is not looked at. -/
def readRecord (title : String) (fields : List String) (form : Form Placed Misplaced α) : Read α :=
  let expected := "struct " ++ title
  match v.setting with
  | .group _ given =>
    match form fun name => (given.lookup name).map (v.below name) with
    | .ok a => .ok a
    | .error m =>
      match firstByName m.unreadable with
      | some (_, e) => .error e
      | none => v.notA expected
  | .list _ items =>
    match form fun name =>
        let n := fields.idxOf name
        items[n]?.map (v.below (Text.number n)) with
    | .ok a => .ok a
    | .error m =>
      match m.unreadable with
      | (_, e) :: _ => .error e
      | [] => v.notA expected
  | _ => v.notA expected

end Placed

def format : Format Placed Misplaced where
  text v := v.readText "a string"
  pathText v := v.readText "path string"
  flag v := v.readFlag
  word bits v := v.readWord bits
  choice title names v := v.readChoice title names
  optional := fun read v => (read v).map some
  record := fun title fields form v => v.readRecord title fields form

end Peripherals.Setting

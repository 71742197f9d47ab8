import Peripherals.Toml.Moments
import Peripherals.Toml.Numbers
import Peripherals.Toml.Outline
import Peripherals.Toml.Strings
/-!
Keys and values. Arrays and inline tables nest at most 79 deep, and a key has at most 79 parts.
-/

set_option autoImplicit false

namespace Peripherals.Toml

def isBare (c : Char) : Bool :=
  let n := c.toNat
  (65 ≤ n && n ≤ 90) || (97 ≤ n && n ≤ 122) || (48 ≤ n && n ≤ 57) || c == '_' || c == '-'

def keyPart : Reader String
  | '"' :: s => lineString ('"' :: s)
  | '\'' :: s => lineString ('\'' :: s)
  | s =>
    if (s.takeWhile isBare).isEmpty then none
    else some (String.ofList (s.takeWhile isBare), s.dropWhile isBare)

/-- A key of at most so many parts with points between them. -/
def key : Nat → Reader (List String)
  | 0, _ => none
  | n + 1, s => do
    let (part, s) ← keyPart (skipBlanks s)
    match skipBlanks s with
    | '.' :: s => do
      let (parts, s) ← key n s
      some (part :: parts, s)
    | s => some ([part], s)

def depthLimit : Nat := 79

/-- The items of an array up to its closing bracket; at most so many. -/
def items (item : Reader Toml) : Nat → Reader (List Toml)
  | 0, _ => none
  | n + 1, s =>
    match skipVoid false s with
    | ']' :: s => some ([], s)
    | s => do
      let (v, s) ← item s
      match skipVoid false s with
      | ',' :: s => do
        let (vs, s) ← items item n s
        some (v :: vs, s)
      | ']' :: s => some ([v], s)
      | _ => none

def keyed (item : Reader Toml) (s : List Char) : Option ((List String × Toml) × List Char) := do
  let (path, s) ← key depthLimit s
  match s with
  | '=' :: s => do
    let (v, s) ← item (skipBlanks s)
    some ((path, v), s)
  | _ => none

/-- The entries of an inline table up to its closing brace; at most so many. -/
def entries (item : Reader Toml) : Nat → Reader (List (List String × Toml))
  | 0, _ => none
  | n + 1, s => do
    let (e, s) ← keyed item s
    match skipBlanks s with
    | ',' :: s => do
      let (es, s) ← entries item n s
      some (e :: es, s)
    | '}' :: s => some ([e], s)
    | _ => none

def inlineTable (item : Reader Toml) (s : List Char) : Option (Toml × List Char) :=
  match skipBlanks s with
  | '}' :: s => some (.table [], s)
  | _ => do
    let (es, rest) ← entries item s.length s
    let fields ← addEntries es []
    some (.table (fieldValues fields), rest)

def scalar : Reader Toml
  | 't' :: 'r' :: 'u' :: 'e' :: s => some (.flag true, s)
  | 'f' :: 'a' :: 'l' :: 's' :: 'e' :: s => some (.flag false, s)
  | '"' :: s => (string ('"' :: s)).map fun x => (.text x.1, x.2)
  | '\'' :: s => (string ('\'' :: s)).map fun x => (.text x.1, x.2)
  | s => if beginsMoment s then takeMoment s else number s

def value : Nat → Reader Toml
  | n + 1, '[' :: s => (items (value n) (s.length + 1) s).map fun x => (.array x.1, x.2)
  | n + 1, '{' :: s => inlineTable (value n) s
  | _, s => scalar s

end Peripherals.Toml

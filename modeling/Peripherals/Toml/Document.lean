import Peripherals.Toml.Values
/-!
Whole TOML texts: entries, and sections under headers.
-/

set_option autoImplicit false

namespace Peripherals.Toml

/-- One line of a text, with the value that begins on it. -/
inductive Line where
  | entry (path : List String) (v : Toml)
  | table (path : List String)
  | row (path : List String)

def line : Reader Line
  | '[' :: '[' :: s => do
    let (path, s) ← key depthLimit s
    match s with
    | ']' :: ']' :: s => some (.row path, s)
    | _ => none
  | '[' :: s => do
    let (path, s) ← key depthLimit s
    match s with
    | ']' :: s => some (.table path, s)
    | _ => none
  | s => do
    let ((path, v), s) ← keyed (value depthLimit) s
    some (.entry path v, s)

def lines : Nat → List Char → Option (List Line)
  | 0, _ => none
  | n + 1, s =>
    match skipVoid false s with
    | [] => some []
    | s => do
      let (l, s) ← line s
      let rest ← lines n (← endLine? s)
      some (l :: rest)

/-- The entries up to the next header, and the lines from there on. -/
def leadingEntries : List Line → List (List String × Toml) × List Line
  | .entry path v :: rest => Text.ahead [(path, v)] (leadingEntries rest)
  | rest => ([], rest)

/-- Adds the sections of a text one after the other; at most so many. -/
def addSections : Nat → List Line → Fields → Option Fields
  | _, [], fields => some fields
  | 0, _ :: _, _ => none
  | n + 1, .table path :: rest, fields => do
    let (entries, rest) := leadingEntries rest
    addSections n rest (← addTable path entries fields)
  | n + 1, .row path :: rest, fields => do
    let (entries, rest) := leadingEntries rest
    addSections n rest (← addRow path entries fields)
  | n + 1, .entry path v :: rest, fields => do
    addSections n rest (← addEntry path v fields)

/-- A byte order mark may stand in front of a text. -/
def skipMark : List Char → List Char
  | c :: s => if c.toNat == 0xFEFF then s else c :: s
  | [] => []

def ofText? (text : String) : Option Toml := do
  let s := skipMark text.toList
  let ls ← lines (s.length + 1) s
  let fields ← addSections ls.length ls []
  some (.table (fieldValues fields))

end Peripherals.Toml

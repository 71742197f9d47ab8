import Peripherals.Toml.Basic
/-!
Outlines: the tables of a text while it is being read. Where a table came from decides what may still
be added to it, so that no table is defined twice.
-/

set_option autoImplicit false

namespace Peripherals.Toml

/-- Where a table came from. -/
inductive Origin where
  | header
  | implied
  | dotted
  deriving DecidableEq, Repr

/-- What a key leads to. -/
inductive Node where
  | value (v : Toml)
  | table (origin : Origin) (fields : List (String × Node))
  /-- Tables that share a header between double brackets. -/
  | rows (tables : List (List (String × Node)))

abbrev Fields : Type := List (String × Node)

def putField (k : String) (n : Node) : Fields → Fields
  | [] => [(k, n)]
  | (j, m) :: rest => if j == k then (k, n) :: rest else (j, m) :: putField k n rest

/-- Changes the table that a path leads to. Tables missing on the way are made; those that may not be
entered, and all other values, stop the change. -/
def change (made : Origin) (mayEnter : Origin → Bool) (f : Origin → Fields → Option Fields) :
    List String → Origin → Fields → Option Fields
  | [], origin, fields => f origin fields
  | k :: path, _, fields =>
    match fields.lookup k with
    | none => do
      let inner ← change made mayEnter f path made []
      some (putField k (.table made inner) fields)
    | some (.table origin inner) =>
      if mayEnter origin then do
        let inner ← change made mayEnter f path origin inner
        some (putField k (.table origin inner) fields)
      else none
    | some (.rows tables) =>
      match tables.reverse with
      | last :: before => do
        let last ← change made mayEnter f path .header last
        some (putField k (.rows (last :: before).reverse) fields)
      | [] => none
    | some (.value _) => none

/-- The last part of a path, and those in front of it. -/
def splitLast? : List String → Option (List String × String)
  | [] => none
  | [k] => some ([], k)
  | k :: ks => (splitLast? ks).map fun x => (k :: x.1, x.2)

/-- Adds a value under a key of one or more parts. A key with points may lead through tables without a
header of their own, and end in one that other such keys have made. -/
def addEntry (path : List String) (v : Toml) (fields : Fields) : Option Fields := do
  let (dir, k) ← splitLast? path
  let place (origin : Origin) (fields : Fields) : Option Fields :=
    if dir ≠ [] ∧ origin ≠ .dotted then none
    else if (fields.lookup k).isSome then none
    else some (fields ++ [(k, .value v)])
  change .dotted (· ≠ .header) place dir .header fields

def addEntries (entries : List (List String × Toml)) (fields : Fields) : Option Fields :=
  entries.foldlM (fun fields e => addEntry e.1 e.2 fields) fields

/-- Gives a table its header and its entries. Only a table that the headers of its parts have implied
may be there already. -/
def addTable (path : List String) (entries : List (List String × Toml)) (fields : Fields) :
    Option Fields := do
  let (dir, k) ← splitLast? path
  let place (_ : Origin) (fields : Fields) : Option Fields :=
    match fields.lookup k with
    | none => do some (putField k (.table .header (← addEntries entries [])) fields)
    | some (.table .implied inner) => do
      some (putField k (.table .header (← addEntries entries inner)) fields)
    | some _ => none
  change .implied (fun _ => true) place dir .header fields

def addRow (path : List String) (entries : List (List String × Toml)) (fields : Fields) :
    Option Fields := do
  let (dir, k) ← splitLast? path
  let place (_ : Origin) (fields : Fields) : Option Fields :=
    match fields.lookup k with
    | none => do some (putField k (.rows [← addEntries entries []]) fields)
    | some (.rows tables) => do
      some (putField k (.rows (tables ++ [← addEntries entries []])) fields)
    | some _ => none
  change .implied (fun _ => true) place dir .header fields

mutual

def nodeValue : Node → Toml
  | .value v => v
  | .table _ fields => .table (fieldValues fields)
  | .rows tables => .array (rowValues tables)

def fieldValues : List (String × Node) → List (String × Toml)
  | [] => []
  | (k, n) :: rest => (k, nodeValue n) :: fieldValues rest

def rowValues : List (List (String × Node)) → List Toml
  | [] => []
  | fields :: rest => .table (fieldValues fields) :: rowValues rest

end

end Peripherals.Toml

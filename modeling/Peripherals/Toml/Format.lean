import Peripherals.Document.Format
import Peripherals.Toml.Basic
/-!
TOML as a document format. Nothing is said about what is wrong with a document.
-/

set_option autoImplicit false

namespace Peripherals.Toml

open Peripherals.Document

abbrev Read (α : Type) : Type := Except Unit α

def readText : Toml → Read String
  | .text s => .ok s
  | _ => .error ()

def readFlag : Toml → Read Bool
  | .flag b => .ok b
  | _ => .error ()

def readWord (bits : Nat) : Toml → Read Nat
  | .int n => if 0 ≤ n ∧ n < Nat.pow 2 bits then .ok n.toNat else .error ()
  | _ => .error ()

def isHollow : Toml → Bool
  | .table fields => fields.isEmpty
  | .array items => items.isEmpty
  | _ => false

/-- A name, alone or as the only key of a table with nothing under it. -/
def readChoice (names : List String) : Toml → Read String
  | .text s => if s ∈ names then .ok s else .error ()
  | .table [(s, v)] => if s ∈ names ∧ isHollow v then .ok s else .error ()
  | _ => .error ()

/-- A table with the fields of a record, or an array of their values in order. What is too much is not
looked at; a date has no field of any record. -/
def readRecord {α : Type} (fields : List String) (form : Form Toml Unit α) (v : Toml) : Read α :=
  let judge (lookup : String → Option Toml) : Read α :=
    match form lookup with
    | .ok a => .ok a
    | .error _ => .error ()
  match v with
  | .table given => judge (given.lookup ·)
  | .array items => judge fun name => items[fields.idxOf name]?
  | .moment _ => judge fun _ => none
  | _ => .error ()

def format : Format Toml Unit where
  text := readText
  pathText := readText
  flag := readFlag
  word := readWord
  choice := fun _ => readChoice
  optional := fun read v => (read v).map some
  record := fun _ => readRecord

end Peripherals.Toml

import Peripherals.Document.Format
import Peripherals.Json.Basic
import Peripherals.Text.Numeral
/-!
JSON as a document format, and what can be wrong with a JSON document.
-/

set_option autoImplicit false

namespace Peripherals.Json

open Peripherals.Document

/-- Why a JSON value does not fit what is asked of it. -/
inductive Misreading where
  | invalidType
  | invalidValue
  | missingField (name : String)
  | unknownVariant (given : String) (expected : List String)
  | tooShort (length : Nat) (title : String) (fields : Nat)
  | tooLong (length : Nat)
  deriving DecidableEq, Repr

def ticked (s : String) : String :=
  "\x60" ++ s ++ "\x60"

def expectation : List String → String
  | [] => "there are no variants"
  | [a] => "expected " ++ ticked a
  | [a, b] => "expected " ++ ticked a ++ " or " ++ ticked b
  | names => "expected one of " ++ String.intercalate ", " (names.map ticked)

namespace Misreading

def message : Misreading → String
  | .invalidType => "invalid type"
  | .invalidValue => "invalid value"
  | .missingField name => "missing field " ++ ticked name
  | .unknownVariant given expected =>
    "unknown variant " ++ ticked given ++ ", " ++ expectation expected
  | .tooShort n title fields =>
    "invalid length " ++ Text.number n ++ ", expected struct " ++ title ++ " with " ++
      Text.number fields ++ (if fields == 1 then " element" else " elements")
  | .tooLong n => "invalid length " ++ Text.number n ++ ", expected fewer elements in array"

end Misreading

abbrev Read (α : Type) : Type := Except Misreading α

def readText : Json → Read String
  | .text s => .ok s
  | _ => .error .invalidType

def readFlag : Json → Read Bool
  | .bool b => .ok b
  | _ => .error .invalidType

def readWord (bits : Nat) : Json → Read Nat
  | .int n => if 0 ≤ n ∧ n < Nat.pow 2 bits then .ok n.toNat else .error .invalidValue
  | _ => .error .invalidType

/-- A name, alone or as the only field of an object with null under it. -/
def readChoice (names : List String) : Json → Read String
  | .text s => if s ∈ names then .ok s else .error (.unknownVariant s names)
  | .object [(s, v)] =>
    if s ∈ names then
      match v with
      | .null => .ok s
      | _ => .error .invalidType
    else .error (.unknownVariant s names)
  | .object _ => .error .invalidValue
  | _ => .error .invalidType

def readOptional {α : Type} (read : Json → Read α) : Json → Read (Option α)
  | .null => .ok none
  | v => (read v).map some

/-- An object with the fields of a record, or an array of their values in order. An object names the
first unreadable field in the order of names, then the first that is missing; an array is judged from
its first item on. -/
def readRecord {α : Type} (title : String) (fields : List String) (form : Form Json Misreading α) :
    Json → Read α
  | .object given =>
    match form (Json.object given).field? with
    | .ok a => .ok a
    | .error m =>
      match firstByName m.unreadable, m.missing with
      | some (_, e), _ => .error e
      | none, name :: _ => .error (.missingField name)
      | none, [] => .error .invalidType
  | .array items =>
    match form fun name => items[fields.idxOf name]? with
    | .ok a => if items.length ≤ fields.length then .ok a else .error (.tooLong items.length)
    | .error m =>
      match m.unreadable, m.missing with
      | (_, e) :: _, _ => .error e
      | [], name :: _ => .error (.tooShort (fields.idxOf name) title fields.length)
      | [], [] => .error .invalidType
  | _ => .error .invalidType

def format : Format Json Misreading where
  text := readText
  pathText := readText
  flag := readFlag
  word := readWord
  choice := fun _ => readChoice
  optional := readOptional
  record := readRecord

end Peripherals.Json

import Peripherals.Decimal.Reading
import Peripherals.Json.Basic
/-!
Reading JSON text. Every reader takes the characters that are left and hands on those behind what it
has read.
-/

set_option autoImplicit false

namespace Peripherals.Json

open Peripherals.Text (digitValue? isDigit)

def isSpace (c : Char) : Bool :=
  c == ' ' || c == '\t' || c == '\n' || c == '\r'

def skipSpace (s : List Char) : List Char :=
  s.dropWhile isSpace

def hexQuad? : List Char → Option (Nat × List Char)
  | a :: b :: c :: d :: s => do
    let n ← Text.digitsValue? 16 [a, b, c, d]
    some (n, s)
  | _ => none

/-- The character of an escape by number; two surrogates name one character. -/
def unicodeEscape? (s : List Char) : Option (Char × List Char) := do
  let (high, s) ← hexQuad? s
  if 0xD800 ≤ high && high ≤ 0xDBFF then
    match s with
    | '\\' :: 'u' :: s => do
      let (low, s) ← hexQuad? s
      if 0xDC00 ≤ low && low ≤ 0xDFFF then
        some (Char.ofNat (0x10000 + (high - 0xD800) * 0x400 + (low - 0xDC00)), s)
      else none
    | _ => none
  else if 0xDC00 ≤ high && high ≤ 0xDFFF then none
  else some (Char.ofNat high, s)

def shortEscape? : Char → Option Char
  | '"' => some '"'
  | '\\' => some '\\'
  | '/' => some '/'
  | 'b' => some (Char.ofNat 8)
  | 'f' => some (Char.ofNat 12)
  | 'n' => some '\n'
  | 'r' => some '\r'
  | 't' => some '\t'
  | _ => none

def stringBody : Nat → List Char → List Char → Option (String × List Char)
  | 0, _, _ => none
  | _ + 1, _, [] => none
  | _ + 1, seen, '"' :: s => some (String.ofList seen.reverse, s)
  | n + 1, seen, '\\' :: 'u' :: s => do
    let (c, s) ← unicodeEscape? s
    stringBody n (c :: seen) s
  | n + 1, seen, '\\' :: c :: s => do
    let c ← shortEscape? c
    stringBody n (c :: seen) s
  | n + 1, seen, c :: s => if c.toNat < 0x20 then none else stringBody n (c :: seen) s

def stringTail (s : List Char) : Option (String × List Char) :=
  stringBody (s.length + 1) [] s

def isNumeric (c : Char) : Bool :=
  isDigit c || c == '-' || c == '+' || c == '.' || c == 'e' || c == 'E'

/-- The value of a number: an integer if it is written as one and fits 64 bits. -/
def number? (word : List Char) : Option Json :=
  let asFloat := (Decimal.float? word).map Json.float
  match word with
  | '-' :: digits =>
    match Text.natural? 10 digits with
    | some n => if 0 < n && n ≤ Nat.pow 2 63 then some (.int (-(n : Int))) else asFloat
    | none => asFloat
  | _ =>
    match Text.natural? 10 word with
    | some n => if n < Nat.pow 2 64 then some (.int n) else asFloat
    | none => asFloat

mutual

def value : Nat → List Char → Option (Json × List Char)
  | 0, _ => none
  | n + 1, s =>
    match skipSpace s with
    | 'n' :: 'u' :: 'l' :: 'l' :: s => some (.null, s)
    | 't' :: 'r' :: 'u' :: 'e' :: s => some (.bool true, s)
    | 'f' :: 'a' :: 'l' :: 's' :: 'e' :: s => some (.bool false, s)
    | '"' :: s => do
      let (t, s) ← stringTail s
      some (.text t, s)
    | '[' :: s =>
      match skipSpace s with
      | ']' :: s => some (.array [], s)
      | s => do
        let (items, s) ← elements n s
        some (.array items, s)
    | '{' :: s =>
      match skipSpace s with
      | '}' :: s => some (.object [], s)
      | s => do
        let (fields, s) ← members n s
        some (.object fields, s)
    | s => do
      let v ← number? (s.takeWhile isNumeric)
      some (v, s.dropWhile isNumeric)

def elements : Nat → List Char → Option (List Json × List Char)
  | 0, _ => none
  | n + 1, s => do
    let (v, s) ← value n s
    match skipSpace s with
    | ',' :: s => do
      let (items, s) ← elements n s
      some (v :: items, s)
    | ']' :: s => some ([v], s)
    | _ => none

def members : Nat → List Char → Option (List (String × Json) × List Char)
  | 0, _ => none
  | n + 1, s =>
    match skipSpace s with
    | '"' :: s => do
      let (name, s) ← stringTail s
      match skipSpace s with
      | ':' :: s => do
        let (v, s) ← value n s
        match skipSpace s with
        | ',' :: s => do
          let (fields, s) ← members n s
          some ((name, v) :: fields, s)
        | '}' :: s => some ([(name, v)], s)
        | _ => none
      | _ => none
    | _ => none

end

def ofText? (text : String) : Option Json := do
  let s := text.toList
  let (v, rest) ← value (2 * s.length + 2) s
  if (skipSpace rest).isEmpty then some v else none

end Peripherals.Json

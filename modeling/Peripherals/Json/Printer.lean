import Peripherals.Decimal.Shortest
import Peripherals.Json.Basic
/-!
Writing JSON on one line: no blanks, the fields of an object in the order of their names.
-/

set_option autoImplicit false

namespace Peripherals.Json

open Peripherals.Text (hexadecimal padLeft)

def escapeChar (c : Char) : List Char :=
  let n := c.toNat
  if c == '"' then ['\\', '"']
  else if c == '\\' then ['\\', '\\']
  else if n == 8 then ['\\', 'b']
  else if n == 12 then ['\\', 'f']
  else if c == '\n' then ['\\', 'n']
  else if c == '\r' then ['\\', 'r']
  else if c == '\t' then ['\\', 't']
  else if n < 0x20 then ['\\', 'u'] ++ padLeft 4 '0' (hexadecimal n)
  else [c]

def quote (s : String) : String :=
  String.ofList ('"' :: s.toList.flatMap escapeChar ++ ['"'])

mutual

def toText : Json → String
  | .null => "null"
  | .bool b => if b then "true" else "false"
  | .int n => String.ofList (Text.signedDecimal n)
  | .float x => Decimal.Style.diagnostic.write x
  | .text s => quote s
  | .array items => "[" ++ String.intercalate "," (itemTexts items) ++ "]"
  | .object fields =>
    let sorted := (fieldTexts fields).mergeSort (fun a b => a.1 ≤ b.1)
    "\x7b" ++ String.intercalate "," (sorted.map (·.2)) ++ "\x7d"

def itemTexts : List Json → List String
  | [] => []
  | v :: vs => v.toText :: itemTexts vs

/-- Each field with its name as the key to sort by. -/
def fieldTexts : List (String × Json) → List (String × String)
  | [] => []
  | (k, v) :: fs => (k, quote k ++ ":" ++ v.toText) :: fieldTexts fs

end

end Peripherals.Json

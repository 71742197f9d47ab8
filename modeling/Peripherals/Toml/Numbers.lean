import Peripherals.Decimal.Reading
import Peripherals.Text.Escaped
import Peripherals.Toml.Basic
/-!
Numbers: integers of 64 bits in four bases, and floats. An underscore may stand between two digits.
-/

set_option autoImplicit false

namespace Peripherals.Toml

open Peripherals.Text (ahead digitValue? isDigit natural?)

def isDigitOf (base : Nat) (c : Char) : Bool :=
  match digitValue? c with
  | some d => d < base
  | none => false

def moreDigits (base : Nat) : Reader (List Char)
  | [] => some ([], [])
  | ['_'] => none
  | '_' :: c :: s =>
    if isDigitOf base c then (moreDigits base s).map (ahead [c]) else none
  | c :: s =>
    if isDigitOf base c then (moreDigits base s).map (ahead [c]) else some ([], c :: s)

def digits (base : Nat) : Reader (List Char)
  | c :: s => if isDigitOf base c then (moreDigits base s).map (ahead [c]) else none
  | [] => none

/-- The digits of a whole number; a zero is followed by no digit. -/
def wholeDigits : Reader (List Char)
  | '0' :: s => some (['0'], s)
  | s => digits 10 s

def integer? (n : Int) : Option Toml :=
  if -(Nat.pow 2 63) ≤ n ∧ n < Nat.pow 2 63 then some (.int n) else none

def basedInteger (base : Nat) (s : List Char) : Option (Toml × List Char) := do
  let (ds, s) ← digits base s
  let n ← natural? base ds
  let v ← integer? n
  some (v, s)

def fraction : Reader (List Char)
  | '.' :: s => (digits 10 s).map (ahead ['.'])
  | s => some ([], s)

/-- The power of ten of a float, with its mark. -/
def power : Reader (List Char)
  | e :: s =>
    if e == 'e' || e == 'E' then
      match s with
      | '-' :: s => (digits 10 s).map (ahead ['e', '-'])
      | '+' :: s => (digits 10 s).map (ahead ['e'])
      | s => (digits 10 s).map (ahead ['e'])
    else some ([], e :: s)
  | [] => some ([], [])

def float? (written : List Char) : Option Toml := do
  let x ← Decimal.float? written
  if x == Float.ofBits 0x7FF0000000000000 then none else some (.float x)

def magnitude (negative : Bool) : Reader Toml
  | 'i' :: 'n' :: 'f' :: s =>
    some (.float (Float.ofBits (if negative then 0xFFF0000000000000 else 0x7FF0000000000000)), s)
  | 'n' :: 'a' :: 'n' :: s =>
    some (.float (Float.ofBits (if negative then 0xFFF8000000000000 else 0x7FF8000000000000)), s)
  | s => do
    let (whole, s) ← wholeDigits s
    let (frac, s) ← fraction s
    let (pow, s) ← power s
    if frac.isEmpty && pow.isEmpty then
      let n ← natural? 10 whole
      let v ← integer? (if negative then -(n : Int) else n)
      some (v, s)
    else
      let v ← float? ((if negative then ['-'] else []) ++ whole ++ frac ++ pow)
      some (v, s)

def number : Reader Toml
  | '0' :: 'x' :: s => basedInteger 16 s
  | '0' :: 'o' :: s => basedInteger 8 s
  | '0' :: 'b' :: s => basedInteger 2 s
  | '-' :: s => magnitude true s
  | '+' :: s => magnitude false s
  | s => magnitude false s

end Peripherals.Toml

import Peripherals.Decimal.Binary
import Peripherals.Text.Lowercase
import Peripherals.Text.Numeral
/-!
Reading a double from decimal text: an optional sign, digits with an optional point, an optional
power of ten, or one of the words for infinity and for a value that is no number.
-/

set_option autoImplicit false

namespace Peripherals.Decimal

open Peripherals.Text

def takeSign : List Char → Bool × List Char
  | '-' :: s => (true, s)
  | '+' :: s => (false, s)
  | s => (false, s)

def exponent? : List Char → Option Int
  | [] => some 0
  | e :: s =>
    if e == 'e' || e == 'E' then
      let (negative, digits) := takeSign s
      (natural? 10 digits).map fun n => if negative then -(n : Int) else n
    else none

def magnitude? (negative : Bool) (s : List Char) : Option Float := do
  let whole := s.takeWhile isDigit
  let rest := s.dropWhile isDigit
  let (fraction, rest) := match rest with
    | '.' :: t => (t.takeWhile isDigit, t.dropWhile isDigit)
    | _ => ([], rest)
  let digits ← natural? 10 (whole ++ fraction)
  let power ← exponent? rest
  some (nearest negative digits (power - fraction.length))

def float? (s : List Char) : Option Float :=
  let (negative, rest) := takeSign s
  let word := lowercase rest
  if word == "inf".toList || word == "infinity".toList then
    some (Float.ofBits (if negative then 0xFFF0000000000000 else 0x7FF0000000000000))
  else if word == "nan".toList then
    some (Float.ofBits (if negative then 0xFFF8000000000000 else 0x7FF8000000000000))
  else magnitude? negative rest

end Peripherals.Decimal

import Peripherals.Decimal.Binary
import Peripherals.Text.Numeral
/-!
The shortest decimal that reads back as a given double, and the texts written with it.
-/

set_option autoImplicit false

namespace Peripherals.Decimal

open Peripherals.Text

/-- A positive double with the ends of the interval of reals that round to it, all counted in
quarters of a unit of its last place. -/
structure Interval where
  low : Nat
  value : Nat
  high : Nat
  /-- Power of two that one quarter stands for. -/
  quarter : Int
  closed : Bool

/-- The reals that round to `significand * 2 ^ exponent`. Below a power of two neighbours are closer. -/
def Interval.around (significand : Nat) (exponent : Int) : Interval where
  low := 4 * significand - (if significand == Nat.pow 2 52 && exponent != -1074 then 1 else 2)
  value := 4 * significand
  high := 4 * significand + 2
  quarter := exponent - 2
  closed := significand % 2 == 0

/-- A count of quarters and a count of units of `10 ^ k`, brought to one scale. -/
def Interval.quarters (i : Interval) (k : Int) (n : Nat) : Nat :=
  n * Nat.pow 2 i.quarter.toNat * Nat.pow 10 (-k).toNat

def Interval.units (i : Interval) (k : Int) (n : Nat) : Nat :=
  n * Nat.pow 10 k.toNat * Nat.pow 2 (-i.quarter).toNat

/-- The decimal `d * 10 ^ k` reads back as the double. -/
def Interval.holds (i : Interval) (d : Nat) (k : Int) : Bool :=
  let x := i.units k d
  let low := i.quarters k i.low
  let high := i.quarters k i.high
  if i.closed then low ≤ x && x ≤ high else low < x && x < high

/-- A decimal on the grid `10 ^ k` next to the value that reads back, the nearer of two. Of two that
are equally near the greater counts. -/
def Interval.onGrid? (i : Interval) (k : Int) : Option Nat :=
  let value := i.quarters k i.value
  let down := value / i.units k 1
  match i.holds down k, i.holds (down + 1) k with
  | true, true =>
    let below := value - i.units k down
    let above := i.units k (down + 1) - value
    some (if below < above then down else down + 1)
  | true, false => some down
  | false, true => some (down + 1)
  | false, false => none

def Interval.search (i : Interval) : Nat → Int → Nat × Int
  | 0, k => (i.quarters k i.value / i.units k 1, k)
  | n + 1, k => match i.onGrid? k with
    | some d => (d, k)
    | none => i.search n (k - 1)

def Interval.order (i : Interval) : Int :=
  ((decimal (i.quarters (-400) i.value / i.units (-400) 1)).length : Int) - 401

def stripZeros : Nat → Nat × Int → Nat × Int
  | 0, d => d
  | n + 1, (d, k) => if d % 10 == 0 && d != 0 then stripZeros n (d / 10, k + 1) else (d, k)

/-- Digits and exponent of the shortest decimal that reads back as `significand * 2 ^ exponent`. -/
def shortest (significand : Nat) (exponent : Int) : Nat × Int :=
  if significand == 0 then (0, 0)
  else
    let i := Interval.around significand exponent
    stripZeros 20 (i.search 18 i.order)

/-- Digits without an exponent, with a point where one is needed. -/
def positional (digits : Nat) (exponent : Int) : List Char :=
  let ds := decimal digits
  if 0 ≤ exponent then (if digits == 0 then ds else ds ++ List.replicate exponent.toNat '0')
  else
    let places := (-exponent).toNat
    let ds := padLeft (places + 1) '0' ds
    ds.take (ds.length - places) ++ '.' :: ds.drop (ds.length - places)

/-- One digit, the others behind a point, and the power of ten. -/
def scientific (digits : Nat) (exponent : Int) : List Char :=
  match decimal digits with
  | [] => []
  | d :: ds =>
    d :: (if ds.isEmpty then [] else '.' :: ds) ++ 'e' :: signedDecimal (exponent + ds.length)

/-- How the text of a float looks, apart from its digits. -/
structure Style where
  /-- Whole numbers end in a point and a zero. -/
  pointed : Bool
  /-- Orders of magnitude written without an exponent, from the first and below the second. -/
  plain : Option (Int × Int)

/-- Numbers as a person reads them: all digits, no exponent. -/
def Style.display : Style := ⟨false, none⟩

/-- Numbers as values in diagnostics: always a point or an exponent. -/
def Style.diagnostic : Style := ⟨true, some (-4, 16)⟩

def Style.write (style : Style) (x : Float) : String :=
  let signed (negative : Bool) (s : List Char) := String.ofList (if negative then '-' :: s else s)
  match Double.ofFloat x with
  | .notANumber => "NaN"
  | .infinite negative => signed negative "inf".toList
  | .finite negative significand exponent =>
    let (digits, k) := shortest significand exponent
    let order := k + (decimal digits).length - 1
    let isPlain := digits == 0 || match style.plain with
      | none => true
      | some (first, last) => first ≤ order && order < last
    signed negative <|
      if isPlain then
        positional digits k ++ (if style.pointed && 0 ≤ k then ['.', '0'] else [])
      else scientific digits k

end Peripherals.Decimal

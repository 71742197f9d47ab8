/-!
Double precision numbers as exact values: an integer times a power of two. Main definitions: taking
a number apart, and rounding a decimal to the nearest number.
-/

set_option autoImplicit false

namespace Peripherals.Decimal

/-- What the bits of a double stand for; a finite value is `significand * 2 ^ exponent`. -/
inductive Double where
  | finite (negative : Bool) (significand : Nat) (exponent : Int)
  | infinite (negative : Bool)
  | notANumber
  deriving DecidableEq

def Double.ofFloat (x : Float) : Double :=
  let bits := x.toBits.toNat
  let negative := Nat.pow 2 63 ≤ bits
  let biased : Nat := bits / Nat.pow 2 52 % Nat.pow 2 11
  let fraction := bits % Nat.pow 2 52
  if biased == 2047 then (if fraction == 0 then .infinite negative else .notANumber)
  else if biased == 0 then .finite negative fraction (-1074)
  else .finite negative (Nat.pow 2 52 + fraction) ((biased : Int) - 1075)

/-- The quotient rounded to the nearest integer, a half to the even neighbour. -/
def roundHalfEven (num den : Nat) : Nat :=
  let down := num / den
  let rest := 2 * (num % den)
  if rest < den || (rest == den && down % 2 == 0) then down else down + 1

def nearestBits (num den : Nat) : Nat :=
  let guess := max (-1074 : Int) ((num.log2 : Int) - den.log2 - 53)
  let scaled (q : Int) : Nat × Nat := (num * Nat.pow 2 (-q).toNat, den * Nat.pow 2 q.toNat)
  let exponent := if (scaled guess).1 / (scaled guess).2 < Nat.pow 2 53 then guess else guess + 1
  let rounded := roundHalfEven (scaled exponent).1 (scaled exponent).2
  let (significand, exponent) :=
    if rounded < Nat.pow 2 53 then (rounded, exponent) else (Nat.pow 2 52, exponent + 1)
  if 971 < exponent then 2047 * Nat.pow 2 52
  else if significand < Nat.pow 2 52 then significand
  else (exponent + 1075).toNat * Nat.pow 2 52 + (significand - Nat.pow 2 52)

/-- The double nearest to `digits * 10 ^ exponent`. Decimals far beyond the range of doubles are
decided by their order of magnitude. -/
def nearest (negative : Bool) (digits : Nat) (exponent : Int) : Float :=
  let order := (Nat.log2 digits : Int) * 30103 / 100000 + exponent
  let bits :=
    if digits == 0 then 0
    else if 400 < order then 2047 * Nat.pow 2 52
    else if order < -400 then 0
    else nearestBits (digits * Nat.pow 10 exponent.toNat) (Nat.pow 10 (-exponent).toNat)
  Float.ofBits ((if negative then Nat.pow 2 63 else 0) + bits).toUInt64

end Peripherals.Decimal

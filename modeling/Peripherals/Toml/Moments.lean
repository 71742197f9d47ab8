import Peripherals.Text.Numeral
import Peripherals.Toml.Basic
/-!
Dates and times: a date, a time, or both with an optional distance from universal time. Days have to
exist in their month.
-/

set_option autoImplicit false

namespace Peripherals.Toml

open Peripherals.Text (isDigit natural?)

def pair? (low high : Nat) : List Char → Option (Nat × List Char)
  | a :: b :: s => do
    let n ← natural? 10 [a, b]
    if low ≤ n ∧ n ≤ high then some (n, s) else none
  | _ => none

def pass? (c : Char) : List Char → Option (List Char)
  | d :: s => if d == c then some s else none
  | [] => none

def skipFraction : List Char → List Char
  | '.' :: c :: s => if isDigit c then s.dropWhile isDigit else '.' :: c :: s
  | s => s

def hourMinute? (s : List Char) : Option (List Char) := do
  let (_, s) ← pair? 0 23 s
  let s ← pass? ':' s
  let (_, s) ← pair? 0 59 s
  some s

/-- Passes over a time of day; a minute may have a leap second. -/
def time? (s : List Char) : Option (List Char) := do
  let s ← hourMinute? s
  let s ← pass? ':' s
  let (_, s) ← pair? 0 60 s
  some (skipFraction s)

def offset? : List Char → Option (List Char)
  | 'Z' :: s | 'z' :: s => some s
  | '+' :: s | '-' :: s => hourMinute? s
  | s => some s

def isLeapYear (y : Nat) : Bool :=
  y % 4 == 0 && (y % 100 != 0 || y % 400 == 0)

def daysIn (year month : Nat) : Nat :=
  if month == 2 then (if isLeapYear year then 29 else 28)
  else if month == 4 || month == 6 || month == 9 || month == 11 then 30
  else 31

def date? : List Char → Option (List Char)
  | a :: b :: c :: d :: '-' :: s => do
    let year ← natural? 10 [a, b, c, d]
    let (month, s) ← pair? 1 12 s
    let s ← pass? '-' s
    let (_, s) ← pair? 1 (daysIn year month) s
    some s
  | _ => none

/-- Passes over the time that follows a date, if there is one. -/
def timeOfDate? : List Char → Option (List Char)
  | [] => some []
  | c :: s =>
    if c == 'T' || c == 't' || c == ' ' then
      match pair? 0 23 s with
      | none => some (c :: s)
      | some _ => do offset? (← time? s)
    else some (c :: s)

def skipMoment? (s : List Char) : Option (List Char) :=
  match s with
  | _ :: _ :: ':' :: _ => time? s
  | _ => do timeOfDate? (← date? s)

/-- A text begins like a date or a time: with four digits and a hyphen, or two and a colon. -/
def beginsMoment (s : List Char) : Bool :=
  match s.span isDigit with
  | ([_, _], ':' :: _) => true
  | ([_, _, _, _], '-' :: _) => true
  | _ => false

def takeMoment (s : List Char) : Option (Toml × List Char) := do
  let rest ← skipMoment? s
  some (.moment (String.ofList (s.take (s.length - rest.length))), rest)

end Peripherals.Toml

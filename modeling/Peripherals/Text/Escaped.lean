import Peripherals.Text.Numeral
/-!
Text between double quotes on one line, in which a backslash announces an escape. Characters that
cannot be seen have to be escaped.
-/

set_option autoImplicit false

namespace Peripherals.Text

/-- Characters that stand for themselves: all but the control characters, and the tab. -/
def isVisible (c : Char) : Bool :=
  c == '\t' || (0x20 ≤ c.toNat && c.toNat != 0x7F)

def charOf? (n : Nat) : Option Char :=
  if n.isValidChar then some (Char.ofNat n) else none

def numbered? (digits : List Char) : Option Char := do
  charOf? (← digitsValue? 16 digits)

def lettered? : Char → Option Char
  | '"' => some '"'
  | '\\' => some '\\'
  | 'b' => some (Char.ofNat 8)
  | 'f' => some (Char.ofNat 12)
  | 'n' => some '\n'
  | 'r' => some '\r'
  | 't' => some '\t'
  | _ => none

def ahead {α β : Type} (front : List α) (x : List α × β) : List α × β :=
  (front ++ x.1, x.2)

/-- The characters up to the closing quote, and what follows it. -/
def unescape? : List Char → Option (List Char × List Char)
  | [] => none
  | '"' :: s => some ([], s)
  | '\\' :: 'u' :: a :: b :: c :: d :: s => do
    let x ← numbered? [a, b, c, d]
    (unescape? s).map (ahead [x])
  | '\\' :: 'U' :: a :: b :: c :: d :: e :: f :: g :: h :: s => do
    let x ← numbered? [a, b, c, d, e, f, g, h]
    (unescape? s).map (ahead [x])
  | '\\' :: c :: s => do
    let x ← lettered? c
    (unescape? s).map (ahead [x])
  | c :: s => if isVisible c then (unescape? s).map (ahead [c]) else none

/-- The characters that fill so many bytes at the front of a text; none if the bytes end inside a
character. -/
def takeBytes? : Nat → List Char → Option (List Char)
  | 0, _ => some []
  | _ + 1, [] => none
  | n + 1, c :: s =>
    if c.utf8Size ≤ n + 1 then (takeBytes? (n + 1 - c.utf8Size) s).map (c :: ·) else none

end Peripherals.Text

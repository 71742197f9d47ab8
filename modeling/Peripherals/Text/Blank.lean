/-!
White space as Unicode defines it, trimming it from both ends of a text, and texts inside others.
-/

set_option autoImplicit false

namespace Peripherals.Text

def isBlank (c : Char) : Bool :=
  let n := c.toNat
  (9 ≤ n && n ≤ 13) || n == 0x20 || n == 0x85 || n == 0xA0 || n == 0x1680 ||
    (0x2000 ≤ n && n ≤ 0x200A) || n == 0x2028 || n == 0x2029 || n == 0x202F || n == 0x205F ||
    n == 0x3000

def dropEndWhile (p : Char → Bool) (s : List Char) : List Char :=
  (s.reverse.dropWhile p).reverse

/-- The text between its first and its last character that is not blank. -/
def trim (s : List Char) : List Char :=
  dropEndWhile isBlank (s.dropWhile isBlank)

@[simp] theorem trim_nil : trim [] = [] := rfl

def occursIn (needle : List Char) : List Char → Bool
  | [] => needle.isEmpty
  | c :: s => needle.isPrefixOf (c :: s) || occursIn needle s

end Peripherals.Text

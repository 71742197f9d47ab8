import Peripherals.Text.Numeral
/-!
File paths as texts, joined by one slash.
-/

set_option autoImplicit false

namespace Peripherals

/-- A path as it was written. -/
structure Path where
  text : String
  deriving DecidableEq, Repr

namespace Path

/-- The path of a relative name below a directory. No slash is added to an empty directory or behind
one that ends in a slash. Paths are told apart by lemmas on their texts, so nothing computes with this. -/
@[irreducible]
def join (dir : Path) (name : String) : Path :=
  if dir.text.isEmpty || dir.text.toList.getLast? == some '/' then ⟨dir.text ++ name⟩
  else ⟨dir.text ++ "/" ++ name⟩

/-- A path without its empty parts and without those that stay where they are. -/
def plain (p : Path) : String :=
  let parts := (p.text.splitOn "/").filter fun part => part != "" && part != "."
  (if p.text.startsWith "/" then "/" else "") ++ String.intercalate "/" parts

def numbered (stem : String) (n : UInt32) : String :=
  stem ++ Text.number n.toNat

end Path

end Peripherals

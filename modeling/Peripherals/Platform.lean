import Peripherals.Text.Blank
import Peripherals.Text.Lowercase
/-!
Platforms: the boards that the program knows, and how a board is told from its model text.
-/

set_option autoImplicit false

namespace Peripherals

/-- A family of boards. -/
inductive Platform where
  | artik520 | artik530 | artik710 | artik1020 | artik05x | generic
  deriving DecidableEq, Repr

namespace Platform

def all : List Platform :=
  [.artik520, .artik530, .artik710, .artik1020, .artik05x, .generic]

def name : Platform → String
  | .artik520 => "ARTIK 520"
  | .artik530 => "ARTIK 530"
  | .artik710 => "ARTIK 710"
  | .artik1020 => "ARTIK 1020"
  | .artik05x => "ARTIK 05x"
  | .generic => "Generic"

def identifier : Platform → String
  | .artik520 => "artik520"
  | .artik530 => "artik530"
  | .artik710 => "artik710"
  | .artik1020 => "artik1020"
  | .artik05x => "artik05x"
  | .generic => "generic"

def label : Platform → String
  | .artik520 => "Artik520"
  | .artik530 => "Artik530"
  | .artik710 => "Artik710"
  | .artik1020 => "Artik1020"
  | .artik05x => "Artik05x"
  | .generic => "Generic"

def isRealTime (p : Platform) : Bool :=
  p == .artik05x

/-- A model text without blanks and NUL characters, in lower case. -/
def normalModel (model : String) : List Char :=
  Text.lowercase (model.toList.filter fun c => !Text.isBlank c && c.toNat != 0)

/-- The marks of the boards, in the order in which they are looked for. -/
def marks : List (String × Platform) := [
  ("artik530", .artik530), ("artik710", .artik710), ("artik1020", .artik1020),
  ("artik10", .artik1020), ("artik05", .artik05x), ("artik520", .artik520), ("artik5", .artik520)]

/-- The platform whose mark is the first found in a model text. -/
def ofModel (model : String) : Platform :=
  let s := normalModel model
  match marks.find? (fun m => Text.occursIn m.1.toList s) with
  | some m => m.2
  | none => .generic

end Platform

end Peripherals

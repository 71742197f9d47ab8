import Peripherals.Text.Escaped
/-!
What stands between the values of a TOML text: blanks, line ends and comments.
-/

set_option autoImplicit false

namespace Peripherals.Toml

open Peripherals.Text (isVisible)

def isBlank (c : Char) : Bool :=
  c == ' ' || c == '\t'

def skipBlanks (s : List Char) : List Char :=
  s.dropWhile isBlank

def newline? : List Char → Option (List Char)
  | '\n' :: s => some s
  | '\r' :: '\n' :: s => some s
  | _ => none

/-- Passes over blanks, line ends and comments; the flag tells that a comment has begun. -/
def skipVoid : Bool → List Char → List Char
  | _, [] => []
  | comment, c :: s =>
    if comment && isVisible c then skipVoid true s
    else if c == ' ' || c == '\t' || c == '\n' then skipVoid false s
    else if c == '#' then skipVoid true s
    else match c, s with
      | '\r', '\n' :: _ => skipVoid false s
      | _, _ => c :: s

def skipComment : List Char → List Char
  | '#' :: s => s.dropWhile isVisible
  | s => s

/-- Passes over the rest of a line, which may hold a comment only. -/
def endLine? (s : List Char) : Option (List Char) :=
  match skipComment (skipBlanks s) with
  | [] => some []
  | s => newline? s

end Peripherals.Toml

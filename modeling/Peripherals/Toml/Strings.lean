import Peripherals.Text.Escaped
import Peripherals.Toml.Basic
import Peripherals.Toml.Layout
/-!
The four ways to write a string: between double quotes with escapes or between single quotes without,
each on one line or, between three quotes, on several. Line ends inside a string read as line feeds.
-/

set_option autoImplicit false

namespace Peripherals.Toml

open Peripherals.Text (ahead isVisible lettered? numbered? unescape?)

def literalBody : Reader (List Char)
  | [] => none
  | '\'' :: s => some ([], s)
  | c :: s => if isVisible c then (literalBody s).map (ahead [c]) else none

/-- Lines up to three single quotes. Two more quotes in front of them belong to the string. -/
def literalLines : Reader (List Char)
  | [] => none
  | '\'' :: '\'' :: '\'' :: '\'' :: '\'' :: s => some (['\'', '\''], s)
  | '\'' :: '\'' :: '\'' :: '\'' :: s => some (['\''], s)
  | '\'' :: '\'' :: '\'' :: s => some ([], s)
  | '\r' :: '\n' :: s => (literalLines s).map (ahead ['\n'])
  | c :: s =>
    if c == '\n' || isVisible c then (literalLines s).map (ahead [c]) else none

def endsLine (s : List Char) : Bool :=
  (newline? (skipBlanks s)).isSome

/-- Lines with escapes up to three double quotes. A backslash at the end of a line hides all blanks
and line ends up to the next character; the flag tells that they are being passed over. -/
def escapedLines : Bool → Reader (List Char)
  | _, [] => none
  | _, '"' :: '"' :: '"' :: '"' :: '"' :: s => some (['"', '"'], s)
  | _, '"' :: '"' :: '"' :: '"' :: s => some (['"'], s)
  | _, '"' :: '"' :: '"' :: s => some ([], s)
  | _, '\\' :: 'u' :: a :: b :: c :: d :: s => do
    let x ← numbered? [a, b, c, d]
    (escapedLines false s).map (ahead [x])
  | _, '\\' :: 'U' :: a :: b :: c :: d :: e :: f :: g :: h :: s => do
    let x ← numbered? [a, b, c, d, e, f, g, h]
    (escapedLines false s).map (ahead [x])
  | _, '\\' :: c :: s =>
    match lettered? c with
    | some x => (escapedLines false s).map (ahead [x])
    | none => if endsLine (c :: s) then escapedLines true s else none
  | hidden, '\r' :: '\n' :: s =>
    if hidden then escapedLines true s else (escapedLines false s).map (ahead ['\n'])
  | hidden, c :: s =>
    if hidden && (isBlank c || c == '\n') then escapedLines true s
    else if c == '\n' || isVisible c then (escapedLines false s).map (ahead [c])
    else none

def skipNewline (s : List Char) : List Char :=
  (newline? s).getD s

/-- A string on one line, as keys may be written. -/
def lineString : Reader String
  | '"' :: s => (unescape? s).map fun x => (String.ofList x.1, x.2)
  | '\'' :: s => (literalBody s).map fun x => (String.ofList x.1, x.2)
  | _ => none

def string : Reader String
  | '"' :: '"' :: '"' :: s =>
    (escapedLines false (skipNewline s)).map fun x => (String.ofList x.1, x.2)
  | '\'' :: '\'' :: '\'' :: s =>
    (literalLines (skipNewline s)).map fun x => (String.ofList x.1, x.2)
  | s => lineString s

end Peripherals.Toml

import Peripherals.Text.Numeral
/-!
Writing TOML: strings in the plainest way that needs no escape, and sections of single lines.
-/

set_option autoImplicit false

namespace Peripherals.Toml

open Peripherals.Text (hexadecimal padLeft)

/-- The longest row of one character, counted on from a row that has begun. -/
def longestRow (c : Char) : Nat → List Char → Nat
  | row, [] => row
  | row, d :: s => if d == c then longestRow c (row + 1) s else max row (longestRow c 0 s)

/-- Control characters that no string may hold as they are. A line feed and a tab may stand in some. -/
def isControl (c : Char) : Bool :=
  c != '\t' && c != '\n' && (c.toNat < 0x20 || c.toNat == 0x7F)

/-- How a string is written. -/
inductive Quotes where
  | escaped
  | literal
  | escapedLines
  | literalLines
  deriving DecidableEq, Repr

/-- The first way that needs no escape, of: double quotes, single quotes, three double quotes, three
single quotes. If there is none, double quotes on as many lines as the string has. -/
def Quotes.suited (s : List Char) : Quotes :=
  let lines := s.contains '\n'
  let control := s.any isControl
  let backslash := s.contains '\\'
  let doubles := longestRow '"' 0 s
  let singles := longestRow '\'' 0 s
  if !control && !backslash && doubles == 0 && !lines then .escaped
  else if !control && singles == 0 && !lines then .literal
  else if !control && !backslash && doubles ≤ 2 then .escapedLines
  else if !control && singles ≤ 2 then .literalLines
  else if lines then .escapedLines
  else .escaped

/-- A character between double quotes; the quote itself is not among them. -/
def escapeChar (c : Char) : List Char :=
  let n := c.toNat
  if c == '\\' then ['\\', '\\']
  else if n == 8 then ['\\', 'b']
  else if c == '\t' then ['\\', 't']
  else if c == '\n' then ['\\', 'n']
  else if n == 12 then ['\\', 'f']
  else if c == '\r' then ['\\', 'r']
  else if n < 0x20 || n == 0x7F then
    ['\\', 'u'] ++ padLeft 4 '0' ((hexadecimal n).map Char.toUpper)
  else [c]

/-- The characters of a string on one line between double quotes. -/
def escapeLine (s : List Char) : List Char :=
  s.flatMap fun c => if c == '"' then ['\\', '"'] else escapeChar c

/-- The characters of a string between three double quotes. Line feeds stay, and so do two quotes in a
row; the number tells how many stand just before. -/
def escapeLines : Nat → List Char → List Char
  | _, [] => []
  | row, c :: s =>
    if c == '"' then
      if row < 2 then '"' :: escapeLines (row + 1) s else '\\' :: '"' :: escapeLines 0 s
    else if c == '\n' then '\n' :: escapeLines 0 s
    else escapeChar c ++ escapeLines 0 s

/-- A string of several lines begins on a line of its own. -/
def opening (quotes s : List Char) : List Char :=
  if s.contains '\n' then quotes ++ ['\n'] else quotes

def Quotes.write : Quotes → List Char → List Char
  | .escaped, s => ['"'] ++ escapeLine s ++ ['"']
  | .literal, s => ['\''] ++ s ++ ['\'']
  | .escapedLines, s => opening ['"', '"', '"'] s ++ escapeLines 0 s ++ ['"', '"', '"']
  | .literalLines, s => opening ['\'', '\'', '\''] s ++ s ++ ['\'', '\'', '\'']

def writeString (s : String) : List Char :=
  (Quotes.suited s.toList).write s.toList

def writeFlag (b : Bool) : List Char :=
  if b then ['t', 'r', 'u', 'e'] else ['f', 'a', 'l', 's', 'e']

def keyLine (key : String) (value : List Char) : List Char :=
  key.toList ++ [' ', '=', ' '] ++ value ++ ['\n']

def sectionText (title : String) (lines : List (List Char)) : List Char :=
  ['['] ++ title.toList ++ [']', '\n'] ++ lines.flatten

def sectionsText (sections : List (List Char)) : List Char :=
  List.intercalate ['\n'] sections

end Peripherals.Toml

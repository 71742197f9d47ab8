import Peripherals.Text.Numeral
import Peripherals.Text.Unprintable
/-!
Text between double quotes, on one line, with every character that cannot be seen written as an
escape.
-/

set_option autoImplicit false

namespace Peripherals.Text

def quoteChar (c : Char) : List Char :=
  let n := c.toNat
  if c == '"' then ['\\', '"']
  else if c == '\\' then ['\\', '\\']
  else if c == '\n' then ['\\', 'n']
  else if c == '\r' then ['\\', 'r']
  else if c == '\t' then ['\\', 't']
  else if n == 0 then ['\\', '0']
  else if n < 0x20 || n == 0x7F || (0x80 ≤ n && isUnprintable n) then
    ['\\', 'u', '{'] ++ hexadecimal n ++ ['}']
  else [c]

def quoted (s : String) : String :=
  String.ofList ('"' :: s.toList.flatMap quoteChar ++ ['"'])

end Peripherals.Text

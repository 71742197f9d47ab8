import Peripherals.IoError.Numbers
import Peripherals.Text.Numeral
/-!
Errors of the operating system, by number, by kind alone, or by kind and text.
-/

set_option autoImplicit false

namespace Peripherals

namespace IoError

/-- Kinds of failure that do not depend on a system's numbering. -/
inductive Kind where
  | notFound | permissionDenied | alreadyExists | wouldBlock | invalidData | invalidInput
  | timedOut | interrupted | unexpectedEnd | other
  deriving DecidableEq, Repr

def Kind.text : Kind → String
  | .notFound => "entity not found"
  | .permissionDenied => "permission denied"
  | .alreadyExists => "entity already exists"
  | .wouldBlock => "operation would block"
  | .invalidData => "invalid data"
  | .invalidInput => "invalid input parameter"
  | .timedOut => "timed out"
  | .interrupted => "operation interrupted"
  | .unexpectedEnd => "unexpected end of file"
  | .other => "other error"

end IoError

/-- An error of the operating system. -/
inductive IoError where
  | system (number : Int)
  | plain (kind : IoError.Kind)
  | described (kind : IoError.Kind) (text : String)
  deriving DecidableEq, Repr

namespace IoError

def text : IoError → String
  | .system n =>
    let number := String.ofList (Text.signedDecimal n)
    (systemTexts.lookup n).getD ("Unknown error " ++ number) ++ " (os error " ++ number ++ ")"
  | .plain k => k.text
  | .described _ s => s

def isNotFound : IoError → Bool
  | .system n => n == 2
  | .plain k => k == .notFound
  | .described k _ => k == .notFound

def isDenied : IoError → Bool
  | .system n => n == 1 || n == 13
  | .plain k => k == .permissionDenied
  | .described k _ => k == .permissionDenied

def notText : IoError :=
  .described .invalidData "stream did not contain valid UTF-8"

/-- A path with a character that no file name may have. -/
def badName : IoError :=
  .described .invalidInput "file name contained an unexpected NUL byte"

end IoError

end Peripherals

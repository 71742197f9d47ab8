import Peripherals.Capability
import Peripherals.Setting.Load
/-!
Complaints: why a command failed, and how the user is told.
-/

set_option autoImplicit false

namespace Peripherals.CommandLine

inductive Complaint where
  | notLoaded (file : Path) (fault : Configuration.LoadFault)
  | invalid (message : String)
  | noLogging (message : String)
  /-- The configuration has a number that cannot be written. -/
  | unwritable
  /-- Nobody can notice that the user wants to go on. -/
  | unnoticed (e : IoError)
  | refused (r : Refusal)

namespace Complaint

def outOfRange : String := "out-of-range value for u64 type"

def message : Complaint → String
  | .notLoaded file _ => "loading " ++ file.text
  | .invalid m => "Invalid configuration: " ++ m
  | .noLogging m => m
  | .unwritable => "Failed to render configuration: " ++ outOfRange
  | .unnoticed e => e.text
  | .refused r => r.message

def causes : Complaint → List String
  | .notLoaded _ f => [f.message, f.text]
  | .invalid _ | .noLogging _ | .unnoticed _ => []
  | .unwritable => [outOfRange]
  | .refused (.fault f) => (f.cause?.map (·.text)).toList
  | .refused (.unsupported _) => []

/-- The code with which the program ends. A torn text ends it at once. -/
def code : Complaint → UInt32
  | .notLoaded _ .torn => 101
  | _ => 1

/-- A cause on lines of its own, behind its number if there are several. -/
def causeText (number : Option Nat) (cause : String) : String :=
  let (first, next) := match number with
    | some n => (String.ofList (Text.padLeft 5 ' ' (Text.decimal n)) ++ ": ", "       ")
    | none => ("    ", "    ")
  "\n" ++ first ++ String.intercalate ("\n" ++ next) (cause.splitOn "\n")

def text (c : Complaint) : String :=
  let causes := match c.causes with
    | [] => ""
    | [cause] => "\n\nCaused by:" ++ causeText none cause
    | several =>
      "\n\nCaused by:" ++ String.join (several.zipIdx.map fun (s, n) => causeText (some n) s)
  "Error: " ++ c.message ++ causes ++ "\n"

end Complaint

end Peripherals.CommandLine

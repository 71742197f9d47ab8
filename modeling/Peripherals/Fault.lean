import Peripherals.Handle
import Peripherals.IoError
import Peripherals.Path
import Peripherals.Status
/-!
Faults: why an operation on a resource failed, what is said about it, and the status it has.
-/

set_option autoImplicit false

namespace Peripherals

/-- The cause of a failure. Several causes share a status; the cause keeps them apart. -/
inductive Fault where
  | invalidArgument (message : String)
  | unknownHandle (handle : Handle)
  | alreadyRequested (module : String) (key : Nat)
  | deviceNotFound (path : Path)
  | permissionDenied (path : Path)
  | io (path : Path) (cause : IoError)
  | shortRead (path : Path)
  | unreadable (path : Path) (raw : String)
  | noSample (path : Path) (channel : Nat)
  | notSupported (message : String)
  | moduleNotAvailable (name : String)
  | moduleNotRequested (name : String)
  | configuration (message : String)
  deriving DecidableEq, Repr

namespace Fault

/-- The fault of a path on which the operating system raised an error. -/
def ofIo (path : Path) (e : IoError) : Fault :=
  if e.isNotFound then .deviceNotFound path
  else if e.isDenied then .permissionDenied path
  else .io path e

def message : Fault → String
  | .invalidArgument m => "Invalid argument: " ++ m
  | .unknownHandle h => "Unknown handle " ++ h.text
  | .alreadyRequested m k => m ++ " " ++ Text.number k ++ " is already requested"
  | .deviceNotFound p => "Device '" ++ p.text ++ "' not found"
  | .permissionDenied p => "Permission denied for device '" ++ p.text ++ "'"
  | .io p e => "I/O error on '" ++ p.text ++ "': " ++ e.text
  | .shortRead p => "Short read from '" ++ p.text ++ "'"
  | .unreadable p raw => "Cannot parse '" ++ raw ++ "' read from '" ++ p.text ++ "'"
  | .noSample p c => "No sample for channel " ++ Text.number c ++ " from '" ++ p.text ++ "'"
  | .notSupported m => "Operation not supported: " ++ m
  | .moduleNotAvailable n => "Module '" ++ n ++ "' is not available"
  | .moduleNotRequested n => "Module '" ++ n ++ "' was not requested"
  | .configuration m => "Configuration error: " ++ m

def status : Fault → Status
  | .invalidArgument _ | .unknownHandle _ | .deviceNotFound _ | .moduleNotRequested _
  | .configuration _ => .badArguments
  | .alreadyRequested _ _ | .io _ _ | .shortRead _ | .unreadable _ _ | .noSample _ _ => .busy
  | .permissionDenied _ => .accessDenied
  | .notSupported _ | .moduleNotAvailable _ => .notSupported

def cause? : Fault → Option IoError
  | .io _ e => some e
  | _ => none

def isBusy (f : Fault) : Bool :=
  f.status == .busy

def isBadArguments (f : Fault) : Bool :=
  f.status == .badArguments

end Fault

end Peripherals

/-!
Events: what the program reports about its work while it does it.
-/

set_option autoImplicit false

namespace Peripherals

/-- How much an event matters. -/
inductive Level where
  | trace | debug | info | warn | error
  deriving DecidableEq, Repr

def Level.name : Level → String
  | .trace => "trace"
  | .debug => "debug"
  | .info => "info"
  | .warn => "warn"
  | .error => "error"

def Level.mark : Level → String
  | .trace => "TRACE"
  | .debug => "DEBUG"
  | .info => "INFO"
  | .warn => "WARN"
  | .error => "ERROR"

def Level.all : List Level :=
  [.trace, .debug, .info, .warn, .error]

/-- One report: a message and named details. -/
structure Event where
  level : Level
  message : String
  details : List (String × String) := []
  deriving DecidableEq, Repr

end Peripherals

import Peripherals.Text.Numeral
/-!
Status codes: the small set of numbers into which all failures fall. Main statement: a code and its
status determine each other.
-/

set_option autoImplicit false

namespace Peripherals

/-- The class of an answer, for callers that want a number. -/
inductive Status where
  | ok | notInitialized | noMemory | notSupported | initFailed | busy | accessDenied | badArguments
  deriving DecidableEq, Repr

namespace Status

def all : List Status :=
  [.ok, .notInitialized, .noMemory, .notSupported, .initFailed, .busy, .accessDenied, .badArguments]

def code : Status → Int
  | .ok => 0
  | .notInitialized => -1
  | .noMemory => -2
  | .notSupported => -3
  | .initFailed => -4
  | .busy => -5
  | .accessDenied => -6
  | .badArguments => -7

def ofCode? (n : Int) : Option Status :=
  all.find? (fun s => s.code == n)

def name : Status → String
  | .ok => "ok"
  | .notInitialized => "not_initialized"
  | .noMemory => "no_mem"
  | .notSupported => "not_supported"
  | .initFailed => "init_failed"
  | .busy => "busy"
  | .accessDenied => "access_denied"
  | .badArguments => "bad_args"

def message : Status → String
  | .ok => "Success"
  | .notInitialized => "Not initialized"
  | .noMemory => "Not enough memory"
  | .notSupported => "Not supported"
  | .initFailed => "Initialization failed"
  | .busy => "Resource busy"
  | .accessDenied => "Access denied"
  | .badArguments => "Bad arguments"

def text (s : Status) : String :=
  s.message ++ " (" ++ String.ofList (Text.signedDecimal s.code) ++ ")"

theorem ofCode?_code (s : Status) : ofCode? s.code = some s := by
  cases s <;> rfl

theorem code_injective {s t : Status} (h : s.code = t.code) : s = t := by
  have hs := ofCode?_code s
  rw [h, ofCode?_code] at hs
  exact (Option.some.inj hs).symm

end Status

end Peripherals

import Peripherals.Document.Format
import Peripherals.Json.Basic
import Peripherals.ModuleKind
import Peripherals.Path
import Peripherals.Text.Lowercase
/-!
The configuration of the program: one section for the application, one for the board, one for each
kind of module. Every section and every field has a default.
-/

set_option autoImplicit false

namespace Peripherals

open Document

/-- What a module works on. -/
inductive Backing where
  | sysfs
  | tizenrt
  | mock
  | disabled
  deriving DecidableEq, Repr

namespace Backing

def all : List Backing :=
  [.sysfs, .tizenrt, .mock, .disabled]

def name : Backing → String
  | .sysfs => "sysfs"
  | .tizenrt => "tizenrt"
  | .mock => "mock"
  | .disabled => "disabled"

def read {V ε : Type} (f : Format V ε) : V → Except ε Backing :=
  f.oneOf "BackendKind" all name .sysfs

end Backing

namespace Configuration

/-- Who the program is and how it logs. -/
structure Application where
  name : String := "artik"
  logLevel : String := "info"
  logFormat : String := "pretty"
  logSpanEvents : Bool := false
  logFileAndLine : Bool := false
  logThreadNames : Bool := false
  deriving DecidableEq, Repr

/-- Which board it is, and where the system's trees begin. -/
structure Board where
  /-- Model text in place of the one the board tells of itself. -/
  model : Option String := none
  sysfsRoot : String := "/sys"
  devRoot : String := "/dev"
  procRoot : String := "/proc"
  deriving DecidableEq, Repr

/-- Analog inputs. -/
structure Analog where
  backing : Option Backing := none
  device : UInt32 := 0
  /-- The control request that starts a conversion; zero reads without one. -/
  triggerRequest : UInt64 := 0x0b01
  deriving DecidableEq, Repr

/-- Digital lines. -/
structure Digital where
  backing : Option Backing := none
  deriving DecidableEq, Repr

/-- Pulse-width outputs. -/
structure Pulse where
  backing : Option Backing := none
  chip : UInt32 := 0
  deriving DecidableEq, Repr

end Configuration

/-- All settings of the program. -/
structure Configuration where
  application : Configuration.Application := {}
  board : Configuration.Board := {}
  adc : Configuration.Analog := {}
  gpio : Configuration.Digital := {}
  pwm : Configuration.Pulse := {}
  deriving DecidableEq, Repr

namespace Configuration

def Analog.trigger (s : Analog) : Option UInt64 :=
  if s.triggerRequest = 0 then none else some s.triggerRequest

section Read

variable {V ε : Type} (f : Format V ε)

def Application.fields : List String :=
  ["name", "log_level", "log_format", "log_span_events", "log_file_and_line", "log_thread_names"]

def Application.read : V → Except ε Application :=
  let d : Application := {}
  f.record "ApplicationConfig" fields <|
    Application.mk <$> .withDefault "name" d.name f.text
      <*> .withDefault "log_level" d.logLevel f.text
      <*> .withDefault "log_format" d.logFormat f.text
      <*> .withDefault "log_span_events" d.logSpanEvents f.flag
      <*> .withDefault "log_file_and_line" d.logFileAndLine f.flag
      <*> .withDefault "log_thread_names" d.logThreadNames f.flag

def Board.fields : List String :=
  ["model", "sysfs_root", "dev_root", "proc_root"]

def Board.read : V → Except ε Board :=
  let d : Board := {}
  f.record "PlatformConfig" fields <|
    Board.mk <$> .withDefault "model" d.model (f.optional f.text)
      <*> .withDefault "sysfs_root" d.sysfsRoot f.pathText
      <*> .withDefault "dev_root" d.devRoot f.pathText
      <*> .withDefault "proc_root" d.procRoot f.pathText

def Analog.fields : List String :=
  ["backend", "device", "trigger_request"]

def Analog.read : V → Except ε Analog :=
  let d : Analog := {}
  f.record "AdcSection" fields <|
    Analog.mk <$> .withDefault "backend" d.backing (f.optional (Backing.read f))
      <*> .withDefault "device" d.device f.word32
      <*> .withDefault "trigger_request" d.triggerRequest f.word64

def Digital.fields : List String :=
  ["backend"]

def Digital.read : V → Except ε Digital :=
  let d : Digital := {}
  f.record "GpioSection" fields <|
    Digital.mk <$> .withDefault "backend" d.backing (f.optional (Backing.read f))

def Pulse.fields : List String :=
  ["backend", "chip"]

def Pulse.read : V → Except ε Pulse :=
  let d : Pulse := {}
  f.record "PwmSection" fields <|
    Pulse.mk <$> .withDefault "backend" d.backing (f.optional (Backing.read f))
      <*> .withDefault "chip" d.chip f.word32

def fields : List String :=
  ["application", "platform", "adc", "gpio", "pwm"]

def read : V → Except ε Configuration :=
  f.record "ArtikConfig" fields <|
    Configuration.mk <$> .withDefault "application" {} (Application.read f)
      <*> .withDefault "platform" {} (Board.read f)
      <*> .withDefault "adc" {} (Analog.read f)
      <*> .withDefault "gpio" {} (Digital.read f)
      <*> .withDefault "pwm" {} (Pulse.read f)

end Read

section Write

/-- A field that is left out when there is nothing to write. -/
def fieldIfSome (name : String) : Option String → List (String × Json)
  | some s => [(name, .text s)]
  | none => []

def Application.toJson (s : Application) : Json :=
  .object [("name", .text s.name), ("log_level", .text s.logLevel),
    ("log_format", .text s.logFormat), ("log_span_events", .bool s.logSpanEvents),
    ("log_file_and_line", .bool s.logFileAndLine), ("log_thread_names", .bool s.logThreadNames)]

def Board.toJson (s : Board) : Json :=
  .object (fieldIfSome "model" s.model ++
    [("sysfs_root", .text s.sysfsRoot), ("dev_root", .text s.devRoot),
      ("proc_root", .text s.procRoot)])

def Analog.toJson (s : Analog) : Json :=
  .object (fieldIfSome "backend" (s.backing.map (·.name)) ++
    [("device", .nat s.device.toNat), ("trigger_request", .nat s.triggerRequest.toNat)])

def Digital.toJson (s : Digital) : Json :=
  .object (fieldIfSome "backend" (s.backing.map (·.name)))

def Pulse.toJson (s : Pulse) : Json :=
  .object (fieldIfSome "backend" (s.backing.map (·.name)) ++ [("chip", .nat s.chip.toNat)])

def toJson (c : Configuration) : Json :=
  .object [("application", c.application.toJson), ("platform", c.board.toJson),
    ("adc", c.adc.toJson), ("gpio", c.gpio.toJson), ("pwm", c.pwm.toJson)]

end Write

def levelNames : List String :=
  ["trace", "debug", "info", "warn", "error"]

def formatNames : List String :=
  ["pretty", "compact", "json"]

def isNamed (names : List String) (word : String) : Bool :=
  names.any (Text.sameLetters · word)

/-- Accepts a word that is one of several names, or says which there are. -/
def checkName (what : String) (names : List String) (word : String) : Except String Unit :=
  if isNamed names word then .ok ()
  else .error ("Invalid " ++ what ++ " '" ++ word ++ "'. Must be one of: " ++
    String.intercalate ", " names)

/-- Only analog inputs can work on the device of a real-time system. -/
def checkBacking (kind : ModuleKind) (backing : Option Backing) : Except String Unit :=
  if backing = some .tizenrt then
    .error ("Backend 'tizenrt' is not available for module '" ++ kind.name ++ "'")
  else .ok ()

/-- Settings that fit their types but that no later stage can use are refused here. -/
def validate (c : Configuration) : Except String Unit := do
  checkName "log_level" levelNames c.application.logLevel
  checkName "log_format" formatNames c.application.logFormat
  checkBacking .gpio c.gpio.backing
  checkBacking .pwm c.pwm.backing

end Configuration

end Peripherals

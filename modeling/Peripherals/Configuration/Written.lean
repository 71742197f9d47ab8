import Peripherals.Configuration.Basic
import Peripherals.Toml.Document
import Peripherals.Toml.Format
import Peripherals.Toml.Printer
/-!
A configuration as a TOML text.
-/

set_option autoImplicit false

namespace Peripherals.Configuration

open Toml (keyLine sectionText sectionsText writeFlag writeString)

def textLine (key value : String) : List Char :=
  keyLine key (writeString value)

def flagLine (key : String) (value : Bool) : List Char :=
  keyLine key (writeFlag value)

def numberLine (key : String) (value : Nat) : List Char :=
  keyLine key (Text.decimal value)

/-- A line that is left out when there is nothing to write. -/
def optionalLine (key : String) : Option String → List (List Char)
  | some s => [textLine key s]
  | none => []

def Application.toToml (s : Application) : List Char :=
  sectionText "application" [
    textLine "name" s.name, textLine "log_level" s.logLevel, textLine "log_format" s.logFormat,
    flagLine "log_span_events" s.logSpanEvents, flagLine "log_file_and_line" s.logFileAndLine,
    flagLine "log_thread_names" s.logThreadNames]

def Board.toToml (s : Board) : List Char :=
  sectionText "platform" (optionalLine "model" s.model ++ [
    textLine "sysfs_root" s.sysfsRoot, textLine "dev_root" s.devRoot,
    textLine "proc_root" s.procRoot])

def Analog.toToml (s : Analog) : List Char :=
  sectionText "adc" (optionalLine "backend" (s.backing.map (·.name)) ++ [
    numberLine "device" s.device.toNat, numberLine "trigger_request" s.triggerRequest.toNat])

def Digital.toToml (s : Digital) : List Char :=
  sectionText "gpio" (optionalLine "backend" (s.backing.map (·.name)))

def Pulse.toToml (s : Pulse) : List Char :=
  sectionText "pwm" (optionalLine "backend" (s.backing.map (·.name)) ++ [
    numberLine "chip" s.chip.toNat])

/-- The text of a configuration. A number beyond the integers of TOML cannot be written. -/
def toToml? (c : Configuration) : Option String :=
  if c.adc.triggerRequest.toNat < Nat.pow 2 63 then
    some (String.ofList (sectionsText [c.application.toToml, c.board.toToml, c.adc.toToml,
      c.gpio.toToml, c.pwm.toToml]))
  else none

def ofToml? (text : String) : Option Configuration := do
  let v ← Toml.ofText? text
  (Configuration.read Toml.format v).toOption

end Peripherals.Configuration

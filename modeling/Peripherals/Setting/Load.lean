import Peripherals.Configuration.Basic
import Peripherals.FileSystem
import Peripherals.Setting.Format
import Peripherals.Setting.Variable
import Peripherals.Text.Utf8
import Peripherals.Toml.Document
/-!
Loading a configuration from its layers: a TOML file, which may be missing, and above it the
environment. What no layer sets keeps its default.
-/

set_option autoImplicit false

namespace Peripherals

namespace Configuration

/-- Why a configuration was not loaded. -/
inductive LoadFault where
  | unreadable (file : Path) (cause : IoError)
  /-- The file is no TOML text, or none that can be taken for settings. -/
  | malformed (file : Path)
  | misplaced (m : Setting.Misplaced)
  /-- A variable holds a text that is cut inside a character. -/
  | torn

def LoadFault.text : LoadFault → String
  | .unreadable p e => e.text ++ "\n in " ++ (Setting.Source.file p).text
  | .malformed p => "invalid TOML in " ++ (Setting.Source.file p).text
  | .misplaced m => m.text
  | .torn => "a variable holds a text that is cut inside a character"

def LoadFault.message (f : LoadFault) : String :=
  "Failed to load configuration: " ++ f.text

def defaultFile : Path := ⟨"config/artik.toml"⟩

def fileSettings (file : Path) (bytes : List UInt8) : Except LoadFault Setting :=
  match Text.ofBytes? bytes with
  | none => .error (.unreadable file .notText)
  | some text =>
    match (Toml.ofText? text).bind (Setting.ofDocument? (.file file)) with
    | none => .error (.malformed file)
    | some settings => .ok settings

def environmentSettings (vars : List (String × String)) : Except LoadFault Setting :=
  match Setting.ofEnvironment? vars with
  | none => .error .torn
  | some settings => .ok settings

/-- The configuration that a file and an environment ask for together. -/
def ofLayers (file : Option Setting) (environment : Setting) : Except LoadFault Configuration :=
  let settings := match file with
    | some s => s.merge environment
    | none => environment
  (Configuration.read Setting.format ⟨[], settings⟩).mapError .misplaced

variable {φ F : Type} (fs : FileSystem φ F)

def readFileSettings (file : Path) : Action LoadFault φ (Option Setting) := do
  if ← fs.isFile file then
    let bytes ← Action.mapError (LoadFault.unreadable file) (fs.readFile file)
    some <$> Action.ofExcept (fileSettings file bytes)
  else return none

def load (file : Path) (vars : List (String × String)) :
    Action LoadFault φ Configuration := do
  let environment ← Action.ofExcept (environmentSettings vars)
  let settings ← readFileSettings fs file
  Action.ofExcept (ofLayers settings environment)

end Configuration

end Peripherals

import Peripherals.Document.Format
import Peripherals.Fault
import Peripherals.Json.Basic
/-!
What is asked of a pulse-width output. Times are in nanoseconds.
-/

set_option autoImplicit false

namespace Peripherals.Pwm

open Peripherals.Document

/-- Which level the pulse has. -/
inductive Polarity where
  | normal | inversed
  deriving DecidableEq, Repr

namespace Polarity

def all : List Polarity :=
  [.normal, .inversed]

def name : Polarity → String
  | .normal => "normal"
  | .inversed => "inversed"

/-- The polarity a person may write, which has a second spelling of the inversed one. -/
def ofWord? (s : String) : Option Polarity :=
  if s == "normal" then some .normal
  else if s == "inversed" || s == "inverse" then some .inversed
  else none

def read {V ε : Type} (f : Format V ε) : V → Except ε Polarity :=
  f.oneOf "PwmPolarity" all name .normal

end Polarity

/-- One output, its user's name for it, and its signal. -/
structure Config where
  pin : UInt32
  name : String
  period : UInt32
  duty : UInt32
  polarity : Polarity
  deriving DecidableEq, Repr

def checkDuty (period duty : UInt32) : Except Fault Unit :=
  if period < duty then
    .error (.invalidArgument ("duty cycle " ++ Text.number duty.toNat ++ " ns exceeds period " ++
      Text.number period.toNat ++ " ns"))
  else .ok ()

namespace Config

def ofPin (pin period duty : UInt32) : Config :=
  ⟨pin, Path.numbered "pwm" pin, period, duty, .normal⟩

def withName (c : Config) (name : String) : Config :=
  { c with name }

def withPolarity (c : Config) (polarity : Polarity) : Config :=
  { c with polarity }

def check (c : Config) : Except Fault Unit :=
  checkDuty c.period c.duty

def fields : List String :=
  ["pin_num", "name", "period", "duty_cycle", "polarity"]

def read {V ε : Type} (f : Format V ε) : V → Except ε Config :=
  f.record "PwmConfig" fields <|
    Config.mk <$> .required "pin_num" f.word32 <*> .withDefault "name" "" f.text
      <*> .required "period" f.word32 <*> .required "duty_cycle" f.word32
      <*> .withDefault "polarity" .normal (Polarity.read f)

def toJson (c : Config) : Json :=
  .object [("pin_num", .nat c.pin.toNat), ("name", .text c.name), ("period", .nat c.period.toNat),
    ("duty_cycle", .nat c.duty.toNat), ("polarity", .text c.polarity.name)]

end Config

end Peripherals.Pwm

import Peripherals.Document.Format
import Peripherals.Json.Basic
import Peripherals.Path
/-!
What is asked of an analog input.
-/

set_option autoImplicit false

namespace Peripherals.Adc

open Peripherals.Document

/-- One analog input and the name its user gives it. -/
structure Config where
  pin : UInt32
  name : String
  deriving DecidableEq, Repr

namespace Config

def ofPin (pin : UInt32) : Config :=
  ⟨pin, Path.numbered "adc" pin⟩

def withName (c : Config) (name : String) : Config :=
  { c with name }

def fields : List String :=
  ["pin_num", "name"]

def read {V ε : Type} (f : Format V ε) : V → Except ε Config :=
  f.record "AdcConfig" fields <|
    Config.mk <$> .required "pin_num" f.word32 <*> .withDefault "name" "" f.text

def toJson (c : Config) : Json :=
  .object [("pin_num", .nat c.pin.toNat), ("name", .text c.name)]

end Config

end Peripherals.Adc

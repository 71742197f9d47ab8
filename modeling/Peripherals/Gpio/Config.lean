import Peripherals.Document.Format
import Peripherals.Json.Basic
import Peripherals.Path
/-!
What is asked of a digital line.
-/

set_option autoImplicit false

namespace Peripherals.Gpio

open Peripherals.Document

/-- Which way a line carries its level. -/
inductive Direction where
  | input | output
  deriving DecidableEq, Repr

namespace Direction

def all : List Direction :=
  [.input, .output]

def name : Direction → String
  | .input => "in"
  | .output => "out"

def label : Direction → String
  | .input => "In"
  | .output => "Out"

def read {V ε : Type} (f : Format V ε) : V → Except ε Direction :=
  f.oneOf "GpioDirection" all name .input

end Direction

/-- Which changes of an input are reported. -/
inductive Edge where
  | none | rising | falling | both
  deriving DecidableEq, Repr

namespace Edge

def all : List Edge :=
  [.none, .rising, .falling, .both]

def name : Edge → String
  | .none => "none"
  | .rising => "rising"
  | .falling => "falling"
  | .both => "both"

def read {V ε : Type} (f : Format V ε) : V → Except ε Edge :=
  f.oneOf "GpioEdge" all name .none

end Edge

/-- One line, its user's name for it, and how it starts. -/
structure Config where
  line : UInt32
  name : String
  direction : Direction
  edge : Edge
  initial : Bool
  deriving DecidableEq, Repr

namespace Config

def input (line : UInt32) : Config :=
  ⟨line, Path.numbered "gpio" line, .input, .none, false⟩

def output (line : UInt32) (initial : Bool) : Config :=
  { input line with direction := .output, initial }

def withName (c : Config) (name : String) : Config :=
  { c with name }

def withEdge (c : Config) (edge : Edge) : Config :=
  { c with edge }

def fields : List String :=
  ["id", "name", "direction", "edge", "initial_value"]

def read {V ε : Type} (f : Format V ε) : V → Except ε Config :=
  f.record "GpioConfig" fields <|
    Config.mk <$> .required "id" f.word32 <*> .withDefault "name" "" f.text
      <*> .withDefault "direction" .input (Direction.read f)
      <*> .withDefault "edge" .none (Edge.read f) <*> .withDefault "initial_value" false f.flag

def toJson (c : Config) : Json :=
  .object [("id", .nat c.line.toNat), ("name", .text c.name),
    ("direction", .text c.direction.name), ("edge", .text c.edge.name),
    ("initial_value", .bool c.initial)]

end Config

end Peripherals.Gpio

import Peripherals.Adc.Driver
import Peripherals.Attribute
/-!
Analog inputs of the Linux Industrial I/O subsystem. Each input is an attribute that holds its raw
count; it is opened once and read afresh every time.
-/

set_option autoImplicit false

namespace Peripherals.Adc

/-- One converter below the root of the attribute tree. -/
structure Iio where
  root : Path
  device : UInt32
  deriving DecidableEq, Repr

namespace Iio

/-- An open input. -/
structure Channel (F : Type) where
  pin : UInt32
  raw : Attribute F

variable {φ F : Type}

def deviceDir (i : Iio) : Path :=
  (i.root.join "bus/iio/devices").join (Path.numbered "iio:device" i.device)

def channelPath (i : Iio) (pin : UInt32) : Path :=
  i.deviceDir.join (Path.numbered "in_voltage" pin ++ "_raw")

def rawLens : Lens (φ × Channel F) (φ × Attribute F) where
  get p := (p.1, p.2.raw)
  set q p := (q.1, { p.2 with raw := q.2 })

def countOf (path : Path) (value : String) : Except Fault Int32 :=
  match Text.signed? (Nat.pow 2 31) value.toList with
  | some n => .ok n.toInt32
  | none => .error (.unreadable path value)

def driver (fs : FileSystem φ F) (i : Iio) : Driver φ (Channel F) where
  name := "iio"
  claim c := do
    let raw ← Attribute.openRead fs (i.channelPath c.pin)
    Action.note ⟨.debug, "Opened IIO channel",
      [("pin", Text.number c.pin.toNat), ("path", raw.path.text)]⟩
    return ⟨c.pin, raw⟩
  read := Action.zoom rawLens do
    let value ← Attribute.read fs
    Action.ofExcept (countOf (← Action.get).2.path value)
  close := do
    let channel := (← Action.get).2
    Action.note ⟨.debug, "Closing IIO channel",
      [("pin", Text.number channel.pin.toNat), ("path", channel.raw.path.text)]⟩

end Iio

end Peripherals.Adc

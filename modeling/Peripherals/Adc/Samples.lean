/-!
Packed samples: one byte for the channel and four for its value, least byte first.
-/

set_option autoImplicit false

namespace Peripherals.Adc

/-- One conversion. -/
structure Sample where
  channel : UInt8
  value : Int32
  deriving DecidableEq, Repr

namespace Sample

def size : Nat := 5

def valueOf (a b c d : UInt8) : Int32 :=
  (a.toNat + b.toNat * Nat.pow 2 8 + c.toNat * Nat.pow 2 16 + d.toNat * Nat.pow 2 24).toInt32

/-- The samples in a list of bytes; a rest too short for a sample is dropped. -/
def decodeAll : List UInt8 → List Sample
  | n :: a :: b :: c :: d :: rest => ⟨n, valueOf a b c d⟩ :: decodeAll rest
  | _ => []

def encode (s : Sample) : List UInt8 :=
  let n := s.value.toUInt32.toNat
  [s.channel, n.toUInt8, (n / Nat.pow 2 8).toUInt8, (n / Nat.pow 2 16).toUInt8, (n / Nat.pow 2 24).toUInt8]

def encodeAll (samples : List Sample) : List UInt8 :=
  samples.flatMap encode

end Sample

end Peripherals.Adc

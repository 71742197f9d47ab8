import Mathlib.Algebra.Group.Nat.Defs
import Mathlib.Data.List.Basic
import Peripherals.Adc.Samples
/-!
Packing and unpacking samples. Main statements: a list of samples is unpacked from its bytes, whatever
short rest follows them, and every list of bytes is the bytes of its samples with a short rest.
-/

set_option autoImplicit false

namespace Peripherals.Adc.Sample

/-! ### The four bytes of a value -/

private theorem toNat_toInt32 {n : Nat} (small : n < 2 ^ 32) : n.toInt32.toUInt32.toNat = n :=
  UInt32.toNat_ofNat_of_lt' small

private theorem toNat_valueOf (a b c d : UInt8) : (valueOf a b c d).toUInt32.toNat =
    a.toNat + b.toNat * 2 ^ 8 + c.toNat * 2 ^ 16 + d.toNat * 2 ^ 24 := by
  have first := a.toNat_lt
  have second := b.toNat_lt
  have third := c.toNat_lt
  have fourth := d.toNat_lt
  have small : a.toNat + b.toNat * 2 ^ 8 + c.toNat * 2 ^ 16 + d.toNat * 2 ^ 24 < 2 ^ 32 := by omega
  simp only [valueOf, Nat.pow_eq]
  exact toNat_toInt32 small

private theorem toInt32_toNat (x : Int32) : x.toUInt32.toNat.toInt32 = x :=
  congrArg Int32.ofUInt32 (UInt32.ofNat_toNat (x := x.toUInt32))

private theorem valueOf_bytes (x : Int32) :
    let n := x.toUInt32.toNat
    valueOf n.toUInt8 (n / 2 ^ 8).toUInt8 (n / 2 ^ 16).toUInt8 (n / 2 ^ 24).toUInt8 = x := by
  intro n
  have small : n < 2 ^ 32 := x.toUInt32.toNat_lt
  have total : n.toUInt8.toNat + (n / 2 ^ 8).toUInt8.toNat * 2 ^ 8 +
      (n / 2 ^ 16).toUInt8.toNat * 2 ^ 16 + (n / 2 ^ 24).toUInt8.toNat * 2 ^ 24 = n := by
    simp only [Nat.toUInt8_eq, UInt8.toNat_ofNat']
    omega
  simp only [valueOf, Nat.pow_eq, total]
  exact toInt32_toNat x

private theorem encode_valueOf (n a b c d : UInt8) : encode ⟨n, valueOf a b c d⟩ = [n, a, b, c, d] := by
  have first := a.toNat_lt
  have second := b.toNat_lt
  have third := c.toNat_lt
  have fourth := d.toNat_lt
  have byte {k : Nat} {x : UInt8} (same : k % 2 ^ 8 = x.toNat) : k.toUInt8 = x :=
    UInt8.toNat_inj.mp ((UInt8.toNat_ofNat' ..).trans same)
  simp only [encode, toNat_valueOf, Nat.pow_eq]
  rw [byte (x := a) (by omega), byte (x := b) (by omega), byte (x := c) (by omega),
    byte (x := d) (by omega)]

/-! ### Lists of samples -/

theorem length_encodeAll (samples : List Sample) : (encodeAll samples).length = size * samples.length := by
  induction samples with
  | nil => rfl
  | cons s samples ih =>
    have five : (encode s).length = size := rfl
    rw [encodeAll, List.flatMap_cons, List.length_append, five, ← encodeAll, ih, List.length_cons, Nat.mul_succ,
      Nat.add_comm]

private theorem decodeAll_encode (s : Sample) (rest : List UInt8) :
    decodeAll (encode s ++ rest) = s :: decodeAll rest := by
  have value := valueOf_bytes s.value
  simp only [encode, Nat.pow_eq, List.cons_append, List.nil_append, decodeAll]
  rw [value]

private theorem decodeAll_short {bytes : List UInt8}
    (short : bytes.length < size) : decodeAll bytes = [] := by
  unfold decodeAll
  split
  · simp [size] at short
    omega
  · rfl

theorem decodeAll_encodeAll (samples : List Sample) {rest : List UInt8} (short : rest.length < size) :
    decodeAll (encodeAll samples ++ rest) = samples := by
  induction samples with
  | nil => exact decodeAll_short short
  | cons s samples ih =>
    rw [encodeAll, List.flatMap_cons, List.append_assoc, decodeAll_encode, ← encodeAll, ih]

/-- All bytes are those of the samples in them and a rest too short for a sample. -/
theorem exists_rest (bytes : List UInt8) :
    ∃ rest, bytes = encodeAll (decodeAll bytes) ++ rest ∧ rest.length < size := by
  fun_induction decodeAll bytes with
  | case1 n a b c d bytes ih =>
    obtain ⟨rest, eq, short⟩ := ih
    refine ⟨rest, ?_, short⟩
    rw [encodeAll, List.flatMap_cons, encode_valueOf, ← encodeAll, List.append_assoc, ← eq]
    rfl
  | case2 bytes other =>
    refine ⟨bytes, rfl, ?_⟩
    rcases bytes with _ | ⟨n, _ | ⟨a, _ | ⟨b, _ | ⟨c, _ | ⟨d, rest⟩⟩⟩⟩⟩
    case cons.cons.cons.cons.cons => exact absurd rfl (other n a b c d rest)
    all_goals simp [size]

theorem length_decodeAll (bytes : List UInt8) : (decodeAll bytes).length = bytes.length / size := by
  obtain ⟨rest, eq, short⟩ := exists_rest bytes
  have total := congrArg List.length eq
  rw [List.length_append, length_encodeAll] at total
  rw [total, Nat.mul_add_div (by decide), Nat.div_eq_of_lt short, Nat.add_zero]

theorem encodeAll_decodeAll (bytes : List UInt8) :
    encodeAll (decodeAll bytes) = bytes.take (size * (bytes.length / size)) := by
  obtain ⟨rest, eq, -⟩ := exists_rest bytes
  rw [← length_decodeAll, ← length_encodeAll]
  generalize encodeAll (decodeAll bytes) = front at eq ⊢
  rw [eq, List.take_left]

end Peripherals.Adc.Sample

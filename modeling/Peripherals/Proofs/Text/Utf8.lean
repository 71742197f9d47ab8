import Peripherals.Text.Utf8
/-!
UTF-8 there and back. Main statement: bytes are decoded as a text just if they are the bytes of the
text.
-/

set_option autoImplicit false

namespace Peripherals.Text.Utf8

private theorem toNat_byte {n : Nat} (small : n < 256) : n.toUInt8.toNat = n := by
  simp only [Nat.toUInt8, UInt8.toNat_ofNat']
  exact Nat.mod_eq_of_lt small

/-! ### Characters by the number of their bytes -/

section Characters

variable {a b c d : UInt8} {x : Char} (bytes : List UInt8)

theorem decode?_one (lead : a.toNat < 0x80) (value : a.toNat = x.toNat) :
    decode? (a :: bytes) = (decode? bytes).map (x :: ·) := by
  rw [decode?.eq_def]
  simp only [if_pos lead]
  rw [value, Char.ofNat_toNat]

private theorem decode?_two (lead : 0xC2 ≤ a.toNat ∧ a.toNat ≤ 0xDF) (hb : isContinuation b = true)
    (value : (a.toNat - 0xC0) * 0x40 + payload b = x.toNat) :
    decode? (a :: b :: bytes) = (decode? bytes).map (x :: ·) := by
  have long : ¬ a.toNat < 0x80 := by omega
  have two : (decide (0xC2 ≤ a.toNat) && decide (a.toNat ≤ 0xDF)) = true := by simp [lead]
  rw [decode?.eq_def]
  simp only [if_neg long, if_pos two, if_pos hb]
  rw [value, Char.ofNat_toNat]

private theorem decode?_three (lead : 0xE0 ≤ a.toNat ∧ a.toNat ≤ 0xEF) (hb : isSecondOfThree a b = true)
    (hc : isContinuation c = true)
    (value : (a.toNat - 0xE0) * 0x1000 + payload b * 0x40 + payload c = x.toNat) :
    decode? (a :: b :: c :: bytes) = (decode? bytes).map (x :: ·) := by
  have long : ¬ a.toNat < 0x80 := by omega
  have longer : ¬ (decide (0xC2 ≤ a.toNat) && decide (a.toNat ≤ 0xDF)) = true := by
    simp only [Bool.and_eq_true, decide_eq_true_eq]
    omega
  have three : (decide (0xE0 ≤ a.toNat) && decide (a.toNat ≤ 0xEF)) = true := by simp [lead]
  rw [decode?.eq_def]
  simp only [if_neg long, if_neg longer, if_pos three, hb, hc, Bool.and_self, if_true]
  rw [value, Char.ofNat_toNat]

private theorem decode?_four (lead : 0xF0 ≤ a.toNat ∧ a.toNat ≤ 0xF4) (hb : isSecondOfFour a b = true)
    (hc : isContinuation c = true) (hd : isContinuation d = true)
    (value : (a.toNat - 0xF0) * 0x40000 + payload b * 0x1000 + payload c * 0x40 + payload d =
      x.toNat) :
    decode? (a :: b :: c :: d :: bytes) = (decode? bytes).map (x :: ·) := by
  have long : ¬ a.toNat < 0x80 := by omega
  have longer : ¬ (decide (0xC2 ≤ a.toNat) && decide (a.toNat ≤ 0xDF)) = true := by
    simp only [Bool.and_eq_true, decide_eq_true_eq]
    omega
  have longest : ¬ (decide (0xE0 ≤ a.toNat) && decide (a.toNat ≤ 0xEF)) = true := by
    simp only [Bool.and_eq_true, decide_eq_true_eq]
    omega
  have four : (decide (0xF0 ≤ a.toNat) && decide (a.toNat ≤ 0xF4)) = true := by simp [lead]
  rw [decode?.eq_def]
  simp only [if_neg long, if_neg longer, if_neg longest, if_pos four, hb, hc, hd, Bool.and_self,
    if_true]
  rw [value, Char.ofNat_toNat]
end Characters

/-- The bytes of a character are read as the character. -/
private theorem decode?_encodeChar (c : Char) (bytes : List UInt8) :
    decode? (encodeChar c ++ bytes) = (decode? bytes).map (c :: ·) := by
  have valid : c.toNat < 0xD800 ∨ 0xDFFF < c.toNat ∧ c.toNat < 0x110000 := c.valid
  have tail (m : Nat) : ((0x80 + m % 0x40).toUInt8).toNat = 0x80 + m % 0x40 := toNat_byte (by omega)
  have continues (m : Nat) : isContinuation (0x80 + m % 0x40).toUInt8 = true := by
    rw [isContinuation, tail m]
    simp only [Bool.and_eq_true, decide_eq_true_eq]
    omega
  have last := tail c.toNat
  have third := tail (c.toNat / 0x40)
  have second := tail (c.toNat / 0x1000)
  unfold encodeChar
  dsimp only
  split
  · next one =>
    have lead : c.toNat.toUInt8.toNat = c.toNat := toNat_byte (by omega)
    exact decode?_one bytes (by rw [lead]; exact one) lead
  split
  · next two =>
    have lead : ((0xC0 + c.toNat / 0x40).toUInt8).toNat = 0xC0 + c.toNat / 0x40 :=
      toNat_byte (by omega)
    refine decode?_two bytes ?_ (continues c.toNat) ?_
    · rw [lead]
      omega
    · have value : (0xC0 + c.toNat / 0x40 - 0xC0) * 0x40 + (0x80 + c.toNat % 0x40 - 0x80) = c.toNat := by
        omega
      rw [← last, ← lead] at value
      exact value
  split
  · next three =>
    have lead : ((0xE0 + c.toNat / 0x1000).toUInt8).toNat = 0xE0 + c.toNat / 0x1000 :=
      toNat_byte (by omega)
    refine decode?_three bytes ?_ ?_ (continues c.toNat) ?_
    · rw [lead]
      omega
    · rw [isSecondOfThree, continues (c.toNat / 0x40)]
      simp only [Bool.true_and, Bool.and_eq_true, Bool.or_eq_true, bne_iff_ne, decide_eq_true_eq,
        third, ne_eq, ← UInt8.toNat_inj, lead]
      have low : UInt8.toNat 0xE0 = 0xE0 := rfl
      have surrogate : UInt8.toNat 0xED = 0xED := rfl
      omega
    · have value : (0xE0 + c.toNat / 0x1000 - 0xE0) * 0x1000 +
          (0x80 + c.toNat / 0x40 % 0x40 - 0x80) * 0x40 + (0x80 + c.toNat % 0x40 - 0x80) = c.toNat := by
        omega
      rw [← last, ← third, ← lead] at value
      exact value
  · have lead : ((0xF0 + c.toNat / 0x40000).toUInt8).toNat = 0xF0 + c.toNat / 0x40000 :=
      toNat_byte (by omega)
    refine decode?_four bytes ?_ ?_ (continues (c.toNat / 0x40)) (continues c.toNat) ?_
    · rw [lead]
      omega
    · rw [isSecondOfFour, continues (c.toNat / 0x1000)]
      simp only [Bool.true_and, Bool.and_eq_true, Bool.or_eq_true, bne_iff_ne, decide_eq_true_eq,
        second, ne_eq, ← UInt8.toNat_inj, lead]
      have low : UInt8.toNat 0xF0 = 0xF0 := rfl
      have high : UInt8.toNat 0xF4 = 0xF4 := rfl
      omega
    · have value : (0xF0 + c.toNat / 0x40000 - 0xF0) * 0x40000 +
          (0x80 + c.toNat / 0x1000 % 0x40 - 0x80) * 0x1000 +
          (0x80 + c.toNat / 0x40 % 0x40 - 0x80) * 0x40 + (0x80 + c.toNat % 0x40 - 0x80) = c.toNat := by
        omega
      rw [← last, ← third, ← second, ← lead] at value
      exact value

/-! ### Texts -/

private theorem encode_cons (c : Char) (s : List Char) : encode
    (c :: s) = encodeChar c ++ encode s := rfl

theorem decode?_encode (s : List Char) : decode? (encode s) = some s := by
  induction s with
  | nil => rfl
  | cons c s ih =>
    rw [encode_cons, decode?_encodeChar, ih]
    rfl

/-! ### Back to the bytes -/

theorem toNat_ofNat {n : Nat} (valid : n < 0xD800 ∨ 0xDFFF < n ∧ n < 0x110000) :
    (Char.ofNat n).toNat = n := by
  have valid : n.isValidChar := valid
  rw [Char.ofNat, dif_pos valid]
  rfl

private theorem toUInt8_eq {n : Nat} {b : UInt8} (same : n = b.toNat) : n.toUInt8 = b := by
  rw [same]
  exact UInt8.ofNat_toNat

section Characters

variable {a b c d : UInt8}

private theorem isContinuation_iff : isContinuation b = true ↔ 0x80 ≤ b.toNat ∧ b.toNat ≤ 0xBF := by
  simp [isContinuation]

private theorem encodeChar_one (lead : a.toNat < 0x80) : encodeChar (Char.ofNat a.toNat) = [a] := by
  rw [encodeChar, toNat_ofNat (by omega)]
  simp only [if_pos lead, toUInt8_eq rfl]

private theorem encodeChar_two (lead : 0xC2 ≤ a.toNat ∧ a.toNat ≤ 0xDF) (hb : isContinuation b = true) :
    encodeChar (Char.ofNat ((a.toNat - 0xC0) * 0x40 + payload b)) = [a, b] := by
  have second := isContinuation_iff.mp hb
  have value : payload b = b.toNat - 0x80 := rfl
  rw [encodeChar, toNat_ofNat (by omega), value, if_neg (by omega), if_pos (by omega),
    toUInt8_eq (b := a) (by omega), toUInt8_eq (b := b) (by omega)]

private theorem encodeChar_three (lead : 0xE0 ≤ a.toNat ∧ a.toNat ≤ 0xEF)
    (hb : isSecondOfThree a b = true)
    (hc : isContinuation c = true) :
    encodeChar (Char.ofNat ((a.toNat - 0xE0) * 0x1000 + payload b * 0x40 + payload c)) = [a, b, c] := by
  have third := isContinuation_iff.mp hc
  have values : payload b = b.toNat - 0x80 ∧ payload c = c.toNat - 0x80 := ⟨rfl, rfl⟩
  have second : (0x80 ≤ b.toNat ∧ b.toNat ≤ 0xBF) ∧ (a.toNat = 0xE0 → 0xA0 ≤ b.toNat) ∧
      (a.toNat = 0xED → b.toNat ≤ 0x9F) := by
    simp only [isSecondOfThree, Bool.and_eq_true, Bool.or_eq_true, bne_iff_ne, decide_eq_true_eq,
      isContinuation_iff, ne_eq, ← UInt8.toNat_inj] at hb
    have low : UInt8.toNat 0xE0 = 0xE0 := rfl
    have surrogate : UInt8.toNat 0xED = 0xED := rfl
    omega
  rw [encodeChar, toNat_ofNat (by omega), values.1, values.2, if_neg (by omega),
    if_neg (by omega), if_pos (by omega), toUInt8_eq (b := a) (by omega),
    toUInt8_eq (b := b) (by omega), toUInt8_eq (b := c) (by omega)]

private theorem encodeChar_four (lead : 0xF0 ≤ a.toNat ∧ a.toNat ≤ 0xF4)
    (hb : isSecondOfFour a b = true)
    (hc : isContinuation c = true) (hd : isContinuation d = true) :
    encodeChar (Char.ofNat ((a.toNat - 0xF0) * 0x40000 + payload b * 0x1000 + payload c * 0x40 +
      payload d)) = [a, b, c, d] := by
  have third := isContinuation_iff.mp hc
  have fourth := isContinuation_iff.mp hd
  have values : payload b = b.toNat - 0x80 ∧ payload c = c.toNat - 0x80 ∧ payload d = d.toNat - 0x80 :=
    ⟨rfl, rfl, rfl⟩
  have second : (0x80 ≤ b.toNat ∧ b.toNat ≤ 0xBF) ∧ (a.toNat = 0xF0 → 0x90 ≤ b.toNat) ∧
      (a.toNat = 0xF4 → b.toNat ≤ 0x8F) := by
    simp only [isSecondOfFour, Bool.and_eq_true, Bool.or_eq_true, bne_iff_ne, decide_eq_true_eq,
      isContinuation_iff, ne_eq, ← UInt8.toNat_inj] at hb
    have low : UInt8.toNat 0xF0 = 0xF0 := rfl
    have high : UInt8.toNat 0xF4 = 0xF4 := rfl
    omega
  rw [encodeChar, toNat_ofNat (by omega), values.1, values.2.1, values.2.2, if_neg (by omega),
    if_neg (by omega), if_neg (by omega), toUInt8_eq (b := a) (by omega),
    toUInt8_eq (b := b) (by omega), toUInt8_eq (b := c) (by omega), toUInt8_eq (b := d) (by omega)]

end Characters

private theorem encode_of_decode? {bytes : List UInt8} {s : List Char} (read : decode? bytes = some s) :
    encode s = bytes := by
  have front {c : Char} {first rest : List UInt8} {s : List Char} (char : encodeChar c = first)
      (ih : ∀ {s}, decode? rest = some s → encode s = rest)
      (read : (decode? rest).map (c :: ·) = some s) : encode s = first ++ rest := by
    obtain ⟨t, later, rfl⟩ := Option.map_eq_some_iff.mp read
    rw [encode_cons, char, ih later]
  fun_induction decode? bytes generalizing s
  case case1 =>
    obtain rfl := Option.some.inj read
    rfl
  case case2 a bytes one ih => exact front (encodeChar_one one) ih read
  case case4 a _ b bytes two hb ih =>
    simp only [Bool.and_eq_true, decide_eq_true_eq] at two
    exact front (encodeChar_two two hb) ih read
  case case7 a _ b _ c bytes three tail ih =>
    simp only [Bool.and_eq_true, decide_eq_true_eq] at three tail
    exact front (encodeChar_three three tail.1 tail.2) ih read
  case case10 a _ b _ c _ d bytes four tail ih =>
    simp only [Bool.and_eq_true, decide_eq_true_eq] at four tail
    exact front (encodeChar_four four tail.1.1 tail.1.2 tail.2) ih read
  all_goals cases read

theorem decode?_eq_some_iff {bytes : List UInt8} {s : List Char} :
    decode? bytes = some s ↔ bytes = encode s :=
  ⟨fun read => (encode_of_decode? read).symm, fun same => same ▸ decode?_encode s⟩

end Peripherals.Text.Utf8

namespace Peripherals.Text

theorem ofBytes?_bytesOf (s : String) : ofBytes? (bytesOf s) = some s := by
  rw [ofBytes?, bytesOf, Utf8.decode?_encode, Option.map_some, String.ofList_toList]

theorem bytesOf_injective {s t : String} (same : bytesOf s = bytesOf t) : s = t := by
  have read := ofBytes?_bytesOf s
  rw [same, ofBytes?_bytesOf] at read
  exact (Option.some.inj read).symm

end Peripherals.Text

import Mathlib.Data.List.Basic
import Mathlib.Data.List.Induction
import Mathlib.Data.List.TakeWhile
import Peripherals.Proofs.Text
/-!
What texts spell: a value between blanks, a row of digits, and a number with or without a sign.
Main statements: the readers of such texts accept just what is spelled so, and the decimal of a number
spells the number.
-/

set_option autoImplicit false

namespace Peripherals.Text

/-! ### Blanks around a value -/

def AllBlank (s : List Char) : Prop :=
  ∀ c ∈ s, isBlank c = true

/-- A text without a blank at either end. -/
structure Tight (s : List Char) : Prop where
  front : ∀ c ∈ s.head?, isBlank c = false
  back : ∀ c ∈ s.getLast?, isBlank c = false

/-- The text is this value, with nothing but blanks around it. -/
def Frames (s value : List Char) : Prop :=
  Tight value ∧ ∃ before after, AllBlank before ∧ AllBlank after ∧ s = before ++ value ++ after

private theorem AllBlank.dropWhile_append {before : List Char} (blank : AllBlank before)
    (s : List Char) :
    (before ++ s).dropWhile isBlank = s.dropWhile isBlank :=
  List.dropWhile_append_of_pos blank

private theorem AllBlank.dropEndWhile_append {after : List Char} (blank : AllBlank after)
    (s : List Char) :
    dropEndWhile isBlank (s ++ after) = dropEndWhile isBlank s := by
  have blank' : ∀ c ∈ after.reverse, isBlank c = true :=
    fun c member => blank c (List.mem_reverse.mp member)
  rw [dropEndWhile, List.reverse_append, List.dropWhile_append_of_pos blank']
  rfl

private theorem allBlank_takeWhile (s : List Char) : AllBlank (s.takeWhile isBlank) :=
  fun _ => List.mem_takeWhile_imp

private theorem dropWhile_front (s : List Char) : ∀ c ∈
    (s.dropWhile isBlank).head?, isBlank c = false := by
  intro c head
  have front := List.head?_dropWhile_not isBlank s
  rw [head] at front
  exact front

private theorem Tight.trim_eq {value : List Char} (tight : Tight value) : trim value = value :=
  trim_eq_self tight.front tight.back

private theorem trim_of_frames {s value : List Char} (frames : Frames s value) : trim s = value := by
  obtain ⟨tight, before, after, blank, blank', rfl⟩ := frames
  rw [trim, List.append_assoc, blank.dropWhile_append]
  cases value with
  | nil =>
    have nothing : after.dropWhile isBlank = [] := List.dropWhile_eq_nil_iff.mpr blank'
    rw [List.nil_append, nothing]
    rfl
  | cons c value =>
    have front : ∀ c' ∈ (c :: value ++ after).head?, isBlank c' = false := tight.front
    rw [dropWhile_eq_self_of_head front, blank'.dropEndWhile_append]
    have trimmed := tight.trim_eq
    rwa [trim, dropWhile_eq_self_of_head tight.front] at trimmed

theorem frames_trim (s : List Char) : Frames s (trim s) := by
  let inner := s.dropWhile isBlank
  let after := (inner.reverse.takeWhile isBlank).reverse
  have cut : inner = trim s ++ after := by
    have parts := congrArg List.reverse (List.takeWhile_append_dropWhile (p := isBlank) (l := inner.reverse))
    rw [List.reverse_append, List.reverse_reverse] at parts
    exact parts.symm
  refine ⟨⟨fun c head => ?_, fun c last => ?_⟩, s.takeWhile isBlank, after, allBlank_takeWhile s, ?_, ?_⟩
  · refine dropWhile_front s c ?_
    change c ∈ inner.head?
    rw [cut, List.head?_append_of_ne_nil _ (List.ne_nil_of_mem (List.mem_of_mem_head? head))]
    exact head
  · rw [trim, dropEndWhile, List.getLast?_reverse] at last
    exact dropWhile_front _ c last
  · exact fun c member => allBlank_takeWhile _ c (List.mem_reverse.mp member)
  · rw [List.append_assoc, ← cut]
    exact List.takeWhile_append_dropWhile.symm

theorem frames_iff {s value : List Char} : Frames s value ↔ trim s = value :=
  ⟨trim_of_frames, fun trimmed => trimmed ▸ frames_trim s⟩

theorem trim_eq_nil_iff {s : List Char} : trim s = [] ↔ AllBlank s := by
  rw [← frames_iff]
  constructor
  · rintro ⟨_, before, after, blank, blank', rfl⟩ c member
    rw [List.append_nil] at member
    exact (List.mem_append.mp member).elim (blank c) (blank' c)
  · intro blank
    refine ⟨⟨(fun _ none => nomatch none), (fun _ none => nomatch none)⟩, s, [], blank, ?_, ?_⟩
    · exact fun _ none => nomatch none
    · rw [List.append_nil, List.append_nil]

/-! ### Digits -/

/-- The digits of a number, with zeros in front or without. -/
inductive Digits : List Char → Nat → Prop
  | one {d : Nat} (small : d < 10) : Digits [digitChar d] d
  | more {s : List Char} {n d : Nat} (front : Digits s n) (small : d < 10) :
    Digits (s ++ [digitChar d]) (n * 10 + d)

private theorem digitValue?_digitChar {d : Nat} (small : d < 10) : digitValue?
    (digitChar d) = some d := by
  have all : ∀ d < 10, digitValue? (digitChar d) = some d := by decide
  exact all d small

private theorem eq_digitChar_of_digitValue? {c : Char} {d : Nat} (value : digitValue? c = some d)
    (small : d < 10) : c = digitChar d := by
  have code : c.toNat = 48 + d := by
    simp only [digitValue?, Bool.and_eq_true, decide_eq_true_eq] at value
    split at value
    · next => grind
    · split at value
      · next => grind
      · split at value
        · next => grind
        · cases value
  rw [digitChar, if_pos small, ← code, Char.ofNat_toNat]

private theorem digitsValue?_concat (s : List Char) (c : Char) : digitsValue? 10 (s ++ [c]) = (do
    let n ← digitsValue? 10 s
    let d ← digitValue? c
    if d < 10 then some (n * 10 + d) else none) := by
  simp only [digitsValue?, List.foldl_append, List.foldl_cons, List.foldl_nil]

private theorem digitsValue?_digits {s : List Char} {n : Nat} (digits : Digits s n) :
    digitsValue? 10 s = some n := by
  induction digits with
  | one small =>
    rw [← List.nil_append [digitChar _], digitsValue?_concat]
    simp [digitsValue?, digitValue?_digitChar small, small]
  | more front small ih =>
    rw [digitsValue?_concat, ih]
    simp [digitValue?_digitChar small, small]

private theorem digits_of_digitsValue? {s : List Char} {n : Nat} (read : digitsValue? 10 s = some n) :
    s = [] ∧ n = 0 ∨ Digits s n := by
  induction s using List.reverseRecOn generalizing n with
  | nil => exact .inl ⟨rfl, (Option.some.inj read).symm⟩
  | append_singleton s c ih =>
    rw [digitsValue?_concat] at read
    obtain ⟨m, front, read⟩ := Option.bind_eq_some_iff.mp read
    obtain ⟨d, digit, read⟩ := Option.bind_eq_some_iff.mp read
    split at read
    · next small =>
      obtain rfl := Option.some.inj read
      obtain rfl := eq_digitChar_of_digitValue? digit small
      rcases ih front with ⟨rfl, rfl⟩ | digits
      · rw [Nat.zero_mul, Nat.zero_add]
        exact .inr (.one small)
      · exact .inr (.more digits small)
    · cases read

private theorem natural?_eq_some_iff {s : List Char}
    {n : Nat} : natural? 10 s = some n ↔ Digits s n := by
  rw [natural?]
  constructor
  · intro read
    split at read
    · cases read
    · next filled =>
      rcases digits_of_digitsValue? read with ⟨rfl, _⟩ | digits
      · exact absurd rfl filled
      · exact digits
  · intro digits
    have filled : s.isEmpty = false := by
      cases digits <;> simp
    rw [filled, if_neg Bool.false_ne_true]
    exact digitsValue?_digits digits

private theorem digits_decimal (n : Nat) : Digits (decimal n) n :=
  natural?_eq_some_iff.mp (natural?_decimal n)

theorem Digits.front {s : List Char} {n : Nat} (digits : Digits s n) :
    ∃ c t, s = c :: t ∧ isDigit c = true := by
  induction digits with
  | one small => exact ⟨_, [], rfl, isDigit_digitChar small⟩
  | more front small ih =>
    obtain ⟨c, t, rfl, digit⟩ := ih
    exact ⟨c, _, rfl, digit⟩

/-! ### Whole numbers -/

/-- A whole number: digits, behind one sign or none. -/
inductive Whole : List Char → Int → Prop
  | plain {s : List Char} {n : Nat} (digits : Digits s n) : Whole s n
  | plus {s : List Char} {n : Nat} (digits : Digits s n) : Whole ('+' :: s) n
  | minus {s : List Char} {n : Nat} (digits : Digits s n) : Whole ('-' :: s) (-n)

def whole? : List Char → Option Int
  | '-' :: s => (natural? 10 s).map fun n : Nat => -(n : Int)
  | '+' :: s => (natural? 10 s).map fun n : Nat => (n : Int)
  | s => (natural? 10 s).map fun n : Nat => (n : Int)

private theorem signed?_eq (half : Nat) (s : List Char) : signed? half s =
    (whole? s).bind fun n => if -(half : Int) ≤ n ∧ n < half then some n else none := by
  unfold signed? whole?
  split <;> simp only [Option.bind_eq_bind, Option.pure_def, Option.map_eq_bind, Option.bind_assoc,
    Option.bind_some, Function.comp_def]

private theorem whole?_eq_some_iff {s : List Char} {n : Int} : whole? s = some n ↔ Whole s n := by
  constructor
  · intro read
    unfold whole? at read
    split at read
    all_goals
      obtain ⟨k, digits, rfl⟩ := Option.map_eq_some_iff.mp read
      rw [natural?_eq_some_iff] at digits
    · exact .minus digits
    · exact .plus digits
    · exact .plain digits
  · intro whole
    cases whole with
    | plain digits =>
      obtain ⟨c, t, rfl, digit⟩ := digits.front
      unfold whole?
      split
      · next same =>
        obtain ⟨rfl, -⟩ := List.cons.inj same
        cases digit
      · next same =>
        obtain ⟨rfl, -⟩ := List.cons.inj same
        cases digit
      · rw [natural?_eq_some_iff.mpr digits]
        rfl
    | plus digits | minus digits =>
      rw [whole?, natural?_eq_some_iff.mpr digits]
      rfl

theorem signed?_eq_some_iff {half : Nat} {s : List Char} {n : Int} :
    signed? half s = some n ↔ Whole s n ∧ -(half : Int) ≤ n ∧ n < half := by
  rw [signed?_eq, Option.bind_eq_some_iff]
  constructor
  · rintro ⟨m, read, fits⟩
    split at fits
    · next bounds =>
      obtain rfl := Option.some.inj fits
      exact ⟨whole?_eq_some_iff.mp read, bounds⟩
    · cases fits
  · rintro ⟨whole, bounds⟩
    exact ⟨n, whole?_eq_some_iff.mpr whole, if_pos bounds⟩

/-! ### Numbers without a minus sign -/

/-- A natural number: digits, behind a plus sign or none. -/
inductive Unsigned : List Char → Nat → Prop
  | plain {s : List Char} {n : Nat} (digits : Digits s n) : Unsigned s n
  | plus {s : List Char} {n : Nat} (digits : Digits s n) : Unsigned ('+' :: s) n

/-- A natural number is read if it is below the limit. -/
theorem unsigned?_eq_some_iff {limit : Nat} {s : List Char} {n : Nat} :
    unsigned? limit s = some n ↔ Unsigned s n ∧ n < limit := by
  unfold unsigned?
  rw [Option.bind_eq_bind, Option.bind_eq_some_iff]
  constructor
  · rintro ⟨m, read, bounded⟩
    have digits := natural?_eq_some_iff.mp read
    split at bounded
    · next below =>
      obtain rfl := Option.some.inj bounded
      split at digits
      · exact ⟨.plus digits, below⟩
      · exact ⟨.plain digits, below⟩
    · cases bounded
  · rintro ⟨spells, below⟩
    refine ⟨n, natural?_eq_some_iff.mpr ?_, if_pos below⟩
    cases spells with
    | plus digits => exact digits
    | plain digits =>
      obtain ⟨c, t, rfl, digit⟩ := digits.front
      split
      · next same =>
        obtain ⟨rfl, -⟩ := List.cons.inj same
        cases digit
      · exact digits

theorem Unsigned.unique {s : List Char} {n m : Nat} (spells : Unsigned s n) (spells' : Unsigned s m) :
    n = m := by
  have read := unsigned?_eq_some_iff.mpr ⟨spells, (by omega : n < n + m + 1)⟩
  have read' := unsigned?_eq_some_iff.mpr ⟨spells', (by omega : m < n + m + 1)⟩
  rw [read] at read'
  exact Option.some.inj read'

theorem Unsigned.front {s : List Char} {n : Nat} (spells : Unsigned s n) :
    ∃ c t, s = c :: t ∧ (isDigit c = true ∨ c = '+') := by
  cases spells with
  | plain digits =>
    obtain ⟨c, t, same, digit⟩ := digits.front
    exact ⟨c, t, same, .inl digit⟩
  | plus digits => exact ⟨'+', _, rfl, .inr rfl⟩

/-! ### Written numbers -/

theorem whole_signedDecimal (n : Int) : Whole (signedDecimal n) n := by
  cases n with
  | ofNat n => exact .plain (digits_decimal n)
  | negSucc n => exact .minus (digits_decimal (n + 1))

/-- A numeral between blanks is framed by them. -/
theorem frames_signedDecimal (n : Int) {before after : List Char} (blank : AllBlank before)
    (blank' : AllBlank after) :
    Frames (before ++ signedDecimal n ++ after) (signedDecimal n) := by
  have digits (k : Nat) : ∀ c ∈ decimal k, isBlank c = false := by
    intro c member
    refine isBlank_of_isPlain ?_
    have digit := isDigit_of_mem_decimal c member
    simp only [isDigit, Bool.and_eq_true, decide_eq_true_eq] at digit
    simp only [isPlain, Bool.and_eq_true, decide_eq_true_eq]
    omega
  have unblank : ∀ c ∈ signedDecimal n, isBlank c = false := by
    cases n with
    | ofNat k => exact digits k
    | negSucc k =>
      intro c member
      rcases List.mem_cons.mp member with rfl | digit
      · rfl
      · exact digits (k + 1) c digit
  refine ⟨⟨fun c head => ?_, fun c last => ?_⟩, before, after, blank, blank', rfl⟩
  · exact unblank c (List.mem_of_mem_head? head)
  · exact unblank c (List.mem_of_mem_getLast? last)

end Peripherals.Text

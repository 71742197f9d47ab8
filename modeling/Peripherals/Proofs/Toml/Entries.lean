import Mathlib.Data.List.TakeDrop
import Peripherals.Proofs.Text
import Peripherals.Proofs.Toml.Strings
import Peripherals.Toml.Document
/-!
Lines of a written text: a header, or a key and a value. Each is read back up to its line end.
Main statements: `line_header` and `line_keyLine`, over the values that `Writes` tells of.
-/

set_option autoImplicit false

namespace Peripherals.Toml

open Peripherals.Text (ahead decimal decimal_front isDigit isDigit_of_mem_decimal)

/-! ### Values -/

/-- A written value is read back in front of a line end. It does not begin with a blank, which would be
lost. -/
structure Writes (w : List Char) (v : Toml) : Prop where
  front : ∃ c t, w = c :: t ∧ isBlank c = false
  read : ∀ rest, value depthLimit (w ++ '\n' :: rest) = some (v, '\n' :: rest)

private theorem writeString_front (s : String) :
    ∃ t, writeString s = '"' :: t ∨ writeString s = '\'' :: t := by
  unfold writeString
  cases Quotes.suited s.toList with
  | escaped => exact ⟨_, .inl rfl⟩
  | literal => exact ⟨_, .inr rfl⟩
  | escapedLines =>
    simp only [Quotes.write, opening]
    split
    · exact ⟨_, .inl rfl⟩
    · exact ⟨_, .inl rfl⟩
  | literalLines =>
    simp only [Quotes.write, opening]
    split
    · exact ⟨_, .inr rfl⟩
    · exact ⟨_, .inr rfl⟩

theorem writes_text (s : String) : Writes (writeString s) (.text s) := by
  obtain ⟨t, begins⟩ := writeString_front s
  constructor
  · rcases begins with eq | eq <;> exact ⟨_, _, eq, rfl⟩
  · intro rest
    have read := string_writeString s rest
    rcases begins with eq | eq <;>
    · rw [eq, List.cons_append] at read ⊢
      simp [depthLimit, value, scalar, read]

theorem writes_flag (b : Bool) : Writes (writeFlag b) (.flag b) := by
  cases b
  · exact ⟨⟨_, _, rfl, rfl⟩, fun _ => rfl⟩
  · exact ⟨⟨_, _, rfl, rfl⟩, fun _ => rfl⟩

/-! ### Numbers -/

private theorem isDigitOf_of_isDigit {c : Char} (digit : isDigit c = true) : isDigitOf 10 c = true := by
  simp only [isDigit, Bool.and_eq_true, decide_eq_true_eq] at digit
  simp only [isDigitOf, Text.digitValue?, Bool.and_eq_true, decide_eq_true_eq, digit, and_self,
    if_true]
  omega

private theorem moreDigits_append {s : List Char} (digits : ∀ c ∈ s, isDigit c = true)
    (rest : List Char) :
    moreDigits 10 (s ++ '\n' :: rest) = some (s, '\n' :: rest) := by
  induction s with
  | nil => rfl
  | cons c s ih =>
    have digit := digits c List.mem_cons_self
    have line : c ≠ '_' := by
      rintro rfl
      cases digit
    have tail := ih fun c h => digits c (List.mem_cons_of_mem _ h)
    rw [List.cons_append, moreDigits]
    · simp [isDigitOf_of_isDigit digit, tail, ahead]
    all_goals simp [line]

private theorem span_digits {s : List Char} (digits : ∀ c ∈ s, isDigit c = true) (rest : List Char) :
    (s ++ '\n' :: rest).span isDigit = (s, '\n' :: rest) := by
  rw [List.span_eq_takeWhile_dropWhile, List.takeWhile_append_of_pos digits,
    List.dropWhile_append_of_pos digits]
  simp [isDigit]

private theorem wholeDigits_decimal (n : Nat) (rest : List Char) :
    wholeDigits (decimal n ++ '\n' :: rest) = some (decimal n, '\n' :: rest) := by
  obtain ⟨c, t, spelled, digit, zero⟩ := decimal_front n
  have member := isDigit_of_mem_decimal (n := n)
  rw [spelled] at member ⊢
  by_cases front : c = '0'
  · subst front
    rw [zero rfl]
    rfl
  · have tail := moreDigits_append (fun c h => member c (List.mem_cons_of_mem _ h)) rest
    simp [wholeDigits, front, digits, isDigitOf_of_isDigit digit, tail, ahead]

private theorem beginsMoment_decimal (n : Nat) (rest : List Char) :
    beginsMoment (decimal n ++ '\n' :: rest) = false := by
  unfold beginsMoment
  rw [span_digits isDigit_of_mem_decimal]
  split
  next h => cases (List.cons.inj (Prod.mk.inj h).2).1
  next h => cases (List.cons.inj (Prod.mk.inj h).2).1
  · rfl

private theorem integer?_of_lt {n : Nat} (small : n < Nat.pow 2 63) : integer? n = some (.int n) := by
  unfold integer?
  -- The bound stays a name: written out it is too large to be computed with.
  generalize Nat.pow 2 63 = bound at small ⊢
  exact if_pos (by omega)

private theorem magnitude_decimal {n : Nat} (small : n < Nat.pow 2 63) (rest : List Char) :
    magnitude false (decimal n ++ '\n' :: rest) = some (.int n, '\n' :: rest) := by
  obtain ⟨c, t, spelled, digit, -⟩ := decimal_front n
  have whole := wholeDigits_decimal n rest
  have spells := Text.natural?_decimal n
  have fits := integer?_of_lt small
  unfold magnitude
  split
  next h =>
    rw [spelled] at h
    obtain ⟨rfl, -⟩ := List.cons.inj h
    cases digit
  next h =>
    rw [spelled] at h
    obtain ⟨rfl, -⟩ := List.cons.inj h
    cases digit
  · have noFraction : fraction ('\n' :: rest) = some ([], '\n' :: rest) := rfl
    have noPower : power ('\n' :: rest) = some ([], '\n' :: rest) := rfl
    have signless : (if false = true then -(n : Int) else n) = n := if_neg Bool.false_ne_true
    simp only [whole, noFraction, noPower, Option.bind_eq_bind, Option.bind_some]
    refine (if_pos rfl).trans ?_
    rw [spells, Option.bind_some, signless, fits, Option.bind_some]

private theorem number_decimal {n : Nat} (small : n < Nat.pow 2 63) (rest : List Char) :
    number (decimal n ++ '\n' :: rest) = some (.int n, '\n' :: rest) := by
  obtain ⟨c, t, spelled, digit, zero⟩ := decimal_front n
  have read := magnitude_decimal small rest
  rw [spelled, List.cons_append] at read ⊢
  unfold number
  split
  · simp_all
  · simp_all
  · simp_all
  next h => exact absurd ((List.cons.inj h).1 ▸ digit) (by decide)
  next h => exact absurd ((List.cons.inj h).1 ▸ digit) (by decide)
  · exact read

theorem writes_number {n : Nat} (small : n < Nat.pow 2 63) : Writes (decimal n) (.int n) := by
  obtain ⟨c, t, spelled, digit, -⟩ := decimal_front n
  have other : ∀ d, isDigit d = false → c ≠ d := by
    rintro d none rfl
    exact absurd digit (by simp [none])
  constructor
  · exact ⟨c, t, spelled, by simp [isBlank, other ' ' rfl, other '\t' rfl]⟩
  · intro rest
    have moment := beginsMoment_decimal n rest
    have read := number_decimal small rest
    rw [spelled, List.cons_append] at moment read ⊢
    have plain : value depthLimit (c :: (t ++ '\n' :: rest)) = scalar (c :: (t ++ '\n' :: rest)) := by
      simp [depthLimit, value, other '[' rfl, other '{' rfl]
    have signs : scalar (c :: (t ++ '\n' :: rest)) = number (c :: (t ++ '\n' :: rest)) := by
      simp [scalar, other 't' rfl, other 'f' rfl, other '"' rfl, other '\'' rfl, moment]
    rw [plain, signs, read]

/-! ### Keys -/

def isBareKey (k : String) : Bool :=
  !k.toList.isEmpty && k.toList.all isBare

section Keys

variable {k : String} (bare : isBareKey k = true)
include bare

theorem bareKey_front : ∃ c t, k.toList = c :: t ∧ ∀ d, isBare d = false → c ≠ d := by
  simp only [isBareKey, Bool.and_eq_true, List.all_eq_true] at bare
  match eq : k.toList, bare with
  | c :: t, ⟨_, all⟩ =>
    refine ⟨c, t, rfl, ?_⟩
    rintro d none rfl
    exact absurd (all c List.mem_cons_self) (by simp [none])

private theorem keyPart_bare {c : Char} (stop : isBare c = false) (rest : List Char) :
    keyPart (k.toList ++ c :: rest) = some (k, c :: rest) := by
  obtain ⟨d, t, spelled, other⟩ := bareKey_front bare
  simp only [isBareKey, Bool.and_eq_true, List.all_eq_true] at bare
  have took : (k.toList ++ c :: rest).takeWhile isBare = k.toList := by
    rw [List.takeWhile_append_of_pos bare.2]
    simp [stop]
  have left : (k.toList ++ c :: rest).dropWhile isBare = c :: rest := by
    rw [List.dropWhile_append_of_pos bare.2]
    simp [stop]
  unfold keyPart
  split
  next h => exact absurd (List.cons.inj (spelled ▸ h)).1 (other '"' rfl)
  next h => exact absurd (List.cons.inj (spelled ▸ h)).1 (other '\'' rfl)
  · rw [took, left, String.ofList_toList]
    exact if_neg (by simpa using bare.1)

private theorem skipBlanks_bare (rest : List Char) : skipBlanks
    (k.toList ++ rest) = k.toList ++ rest := by
  obtain ⟨d, t, spelled, other⟩ := bareKey_front bare
  simp [skipBlanks, spelled, isBlank, other ' ' rfl, other '\t' rfl]

private theorem key_bare {c : Char} {s t : List Char} {sign : Char} (stop : isBare c = false)
    (ends : skipBlanks (c :: s) = sign :: t) (single : sign ≠ '.') :
    key depthLimit (k.toList ++ c :: s) = some ([k], sign :: t) := by
  unfold key depthLimit
  simp only [skipBlanks_bare bare, keyPart_bare bare stop, Option.bind_eq_bind, Option.bind_some, ends]
  split
  next h => exact absurd (List.cons.inj h).1 single
  · rfl

end Keys

/-! ### Lines -/

theorem line_header {title : String} (bare : isBareKey title = true) (rest : List Char) :
    line ('[' :: (title.toList ++ ']' :: rest)) = some (.table [title], rest) := by
  obtain ⟨c, t, spelled, other⟩ := bareKey_front bare
  have read := key_bare bare (c := ']') (s := rest) rfl rfl (by decide)
  have single : ∀ s, title.toList ++ ']' :: rest ≠ '[' :: s := by
    intro s eq
    rw [spelled] at eq
    exact other '[' rfl (List.cons.inj eq).1
  unfold line
  split
  next h => exact absurd (List.cons.inj h).2 (single _)
  next h =>
    obtain rfl := (List.cons.inj h).2
    simp [read]
  next h => exact absurd rfl (h _)

private theorem keyed_keyLine {k : String} (bare : isBareKey k = true) {w : List Char} {v : Toml}
    (written : Writes w v) (rest : List Char) :
    keyed (value depthLimit) (keyLine k w ++ rest) = some (([k], v), '\n' :: rest) := by
  obtain ⟨c, t, begins, shown⟩ := written.front
  have spelled : keyLine k w ++ rest = k.toList ++ ' ' :: '=' :: ' ' :: (w ++ '\n' :: rest) := by
    simp [keyLine]
  have read := key_bare bare (c := ' ') (s := '=' :: ' ' :: (w ++ '\n' :: rest)) rfl rfl (by decide)
  have close : skipBlanks (' ' :: (w ++ '\n' :: rest)) = w ++ '\n' :: rest := by
    have blank : isBlank ' ' = true := rfl
    simp [skipBlanks, begins, shown, blank]
  rw [keyed, spelled, read]
  simp [close, written.read]

theorem line_keyLine {k : String} (bare : isBareKey k = true) {w : List Char} {v : Toml}
    (written : Writes w v) (rest : List Char) :
    line (keyLine k w ++ rest) = some (.entry [k] v, '\n' :: rest) := by
  obtain ⟨c, t, begins, other⟩ := bareKey_front bare
  have read := keyed_keyLine bare written rest
  obtain ⟨tail, spelled⟩ : ∃ tail, keyLine k w ++ rest = c :: tail := by
    exact ⟨_, by simp [keyLine, begins]; rfl⟩
  rw [spelled] at read ⊢
  simp [line, other '[' rfl, read]

end Peripherals.Toml

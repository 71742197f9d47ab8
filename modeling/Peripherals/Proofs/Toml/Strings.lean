import Peripherals.Toml.Printer
import Peripherals.Toml.Strings
/-!
Written strings are read back: of the four ways to write a string, the one that is chosen suits it.
Main statement: `string_writeString`.
-/

set_option autoImplicit false

namespace Peripherals.Toml

open Peripherals.Text (ahead hexadecimal isVisible lettered? numbered? padLeft unescape?)

private theorem isVisible_of_not_isControl {c : Char} (plain : isControl c = false) (line : c ≠ '\n') :
    isVisible c = true := by
  simp only [isControl, Bool.and_eq_false_iff, bne_eq_false_iff_eq, Bool.or_eq_false_iff,
    decide_eq_false_iff_not, beq_eq_false_iff_ne] at plain
  obtain (tab | feed) | ⟨high, delete⟩ := plain
  · simp [isVisible, tab]
  · exact absurd feed line
  · simp [isVisible, delete]
    omega

/-! ### Characters between double quotes -/

private theorem numbered?_written {n : Nat} (h : n < 128) :
    ∃ a b c d, padLeft 4 '0' ((hexadecimal n).map Char.toUpper) = [a, b, c, d] ∧
      numbered? [a, b, c, d] = some (Char.ofNat n) := by
  have all : ∀ n < 128, (padLeft 4 '0' ((hexadecimal n).map Char.toUpper)).length = 4 ∧
      numbered? (padLeft 4 '0' ((hexadecimal n).map Char.toUpper)) = some (Char.ofNat n) := by
    decide +kernel
  obtain ⟨size, read⟩ := all n h
  match eq : padLeft 4 '0' ((hexadecimal n).map Char.toUpper), size with
  | [a, b, c, d], _ => exact ⟨a, b, c, d, rfl, eq ▸ read⟩

private theorem escapeChar_cases (c : Char) :
    (∃ x, escapeChar c = ['\\', x] ∧ lettered? x = some c) ∨
    (∃ x y z w, escapeChar c = ['\\', 'u', x, y, z, w] ∧ numbered? [x, y, z, w] = some c) ∨
    (escapeChar c = [c] ∧ c ≠ '\\' ∧ isVisible c = true) := by
  have named : ∀ {n : Nat}, c.toNat = n → c = Char.ofNat n := fun h => h ▸ (Char.ofNat_toNat c).symm
  by_cases slash : c = '\\'
  · exact .inl ⟨'\\', by simp [escapeChar, slash], congrArg some slash.symm⟩
  by_cases back : c.toNat = 8
  · exact .inl ⟨'b', by simp [escapeChar, named back], named back ▸ rfl⟩
  by_cases tab : c = '\t'
  · exact .inl ⟨'t', by simp [escapeChar, tab], tab ▸ rfl⟩
  by_cases line : c = '\n'
  · exact .inl ⟨'n', by simp [escapeChar, line], line ▸ rfl⟩
  by_cases page : c.toNat = 12
  · exact .inl ⟨'f', by simp [escapeChar, named page], named page ▸ rfl⟩
  by_cases feed : c = '\r'
  · exact .inl ⟨'r', by simp [escapeChar, feed], feed ▸ rfl⟩
  by_cases control : c.toNat < 0x20 ∨ c.toNat = 0x7F
  · obtain ⟨x, y, z, w, written, read⟩ := numbered?_written (n := c.toNat) (by omega)
    refine .inr (.inl ⟨x, y, z, w, ?_, read.trans (congrArg some (named rfl).symm)⟩)
    simp [escapeChar, slash, back, tab, line, page, feed, control, written]
  · refine .inr (.inr ⟨?_, slash, ?_⟩)
    · simp [escapeChar, slash, back, tab, line, page, feed, control]
    · simp [isVisible]
      omega

/-- What a reader does with one character between double quotes. -/
structure Unescapes (read : Reader (List Char)) : Prop where
  letter : ∀ {c x : Char} (s : List Char), lettered? c = some x →
    read ('\\' :: c :: s) = (read s).map (ahead [x])
  number : ∀ {a b c d x : Char} (s : List Char), numbered? [a, b, c, d] = some x →
    read ('\\' :: 'u' :: a :: b :: c :: d :: s) = (read s).map (ahead [x])
  plain : ∀ {c : Char} (s : List Char), c ≠ '"' → c ≠ '\\' → isVisible c = true →
    read (c :: s) = (read s).map (ahead [c])

private theorem ne_of_lettered {c x : Char} (h : lettered? c = some x) : c ≠ 'u' ∧ c ≠ 'U' := by
  constructor <;> rintro rfl <;> cases h

private theorem unescapes_unescape? : Unescapes unescape? where
  letter s h := by simp [unescape?, ne_of_lettered h, h]
  number s h := by simp [unescape?, h]
  plain s _ slash visible := by simp [unescape?, slash, visible]

private theorem unescapes_escapedLines : Unescapes (escapedLines false) where
  letter s h := by simp [escapedLines, ne_of_lettered h, h]
  number s h := by simp [escapedLines, h]
  plain {c} s quote slash visible := by
    have feed : c ≠ '\r' := by
      rintro rfl
      cases visible
    simp [escapedLines, quote, slash, visible, feed]

private theorem Unescapes.escapeChar {read : Reader (List Char)} (u : Unescapes read) {c : Char}
    (quote : c ≠ '"') (s : List Char) :
    read (escapeChar c ++ s) = (read s).map (ahead [c]) := by
  obtain ⟨x, written, letter⟩ | ⟨x, y, z, w, written, number⟩ | ⟨written, slash, visible⟩ :=
    escapeChar_cases c
  · rw [written]
    exact u.letter s letter
  · rw [written]
    exact u.number s number
  · rw [written]
    exact u.plain s quote slash visible

private theorem escapeChar_front (c : Char) :
    ∃ d t, Toml.escapeChar c = d :: t ∧ isVisible d = true ∧ (c ≠ '"' → d ≠ '"') := by
  obtain ⟨x, written, -⟩ | ⟨x, y, z, w, written, -⟩ | ⟨written, -, visible⟩ := escapeChar_cases c
  · exact ⟨_, _, written, rfl, fun _ => by decide⟩
  · exact ⟨_, _, written, rfl, fun _ => by decide⟩
  · exact ⟨_, _, written, visible, id⟩

/-! ### One line -/

private theorem unescape?_escapeLine (s rest : List Char) :
    unescape? (escapeLine s ++ '"' :: rest) = some (s, rest) := by
  induction s with
  | nil => rfl
  | cons c s ih =>
    by_cases quote : c = '"'
    · subst quote
      have written : escapeLine ('"' :: s) = '\\' :: '"' :: escapeLine s := rfl
      rw [written, List.cons_append, List.cons_append, unescapes_unescape?.letter _ rfl, ih]
      rfl
    · have written : escapeLine (c :: s) = escapeChar c ++ escapeLine s := by
        simp [escapeLine, quote]
      rw [written, List.append_assoc, unescapes_unescape?.escapeChar quote, ih]
      rfl

private theorem escapeLine_front {c : Char} (s : List Char) :
    ∃ d t, escapeLine (c :: s) = d :: t ∧ d ≠ '"' := by
  by_cases quote : c = '"'
  · exact ⟨'\\', _, by simp [escapeLine, quote]; rfl, by decide⟩
  · obtain ⟨d, t, written, -, front⟩ := escapeChar_front c
    exact ⟨d, t ++ escapeLine s, by simp [escapeLine, quote, written], front quote⟩

private theorem literalBody_append {s : List Char} (rest : List Char)
    (visible : ∀ c ∈ s, isVisible c = true) (quotes : ∀ c ∈ s, c ≠ '\'') :
    literalBody (s ++ '\'' :: rest) = some (s, rest) := by
  induction s with
  | nil => rfl
  | cons c s ih =>
    have hs := ih (fun c h => visible c (List.mem_cons_of_mem _ h))
      fun c h => quotes c (List.mem_cons_of_mem _ h)
    simp [literalBody, visible c List.mem_cons_self, quotes c List.mem_cons_self, hs, ahead]

/-! ### Double quotes on several lines -/

/-- What a reader does with quotes where three in a row end a string. -/
structure Closes (q : Char) (read : Reader (List Char)) : Prop where
  /-- A quote in front of something else than two quotes belongs to the string. -/
  quote : ∀ {s : List Char}, ¬ [q, q] <+: s → read (q :: s) = (read s).map (ahead [q])
  /-- Up to two quotes in front of the last three belong to the string. -/
  closing : ∀ {rest : List Char} (own : Nat), ¬ [q] <+: rest → own ≤ 2 →
    read (List.replicate own q ++ q :: q :: q :: rest) = some (List.replicate own q, rest)

private theorem closes_escapedLines : Closes '"' (escapedLines false) where
  quote {s} inside := by
    match s, inside with
    | [], _ => rfl
    | c :: s, inside =>
      by_cases quote : c = '"'
      · subst quote
        match s, inside with
        | [], _ => rfl
        | d :: s, inside =>
          have other : d ≠ '"' := fun e => inside (e ▸ ⟨s, rfl⟩)
          rw [escapedLines]
          all_goals simp_all [isVisible]
      · rw [escapedLines]
        all_goals simp_all [isVisible]
  closing {rest} own behind few := by
    have cases : own = 0 ∨ own = 1 ∨ own = 2 := by omega
    match rest, behind with
    | [], _ => rcases cases with rfl | rfl | rfl <;> rfl
    | c :: rest, behind =>
      have other : c ≠ '"' := fun e => behind (e ▸ ⟨rest, rfl⟩)
      rcases cases with rfl | rfl | rfl <;> simp [List.replicate, escapedLines, other]

private theorem escapedLines_feed (s : List Char) :
    escapedLines false ('\n' :: s) = (escapedLines false s).map (ahead ['\n']) := rfl

private theorem escapeLines_quote {row : Nat} (few : row < 2) (s : List Char) :
    escapeLines row ('"' :: s) = '"' :: escapeLines (row + 1) s :=
  if_pos few

private theorem escapeLines_full (s : List Char) : escapeLines 2
    ('"' :: s) = '\\' :: '"' :: escapeLines 0 s :=
  rfl

private theorem escapeLines_feed (row : Nat) (s : List Char) :
    escapeLines row ('\n' :: s) = '\n' :: escapeLines 0 s :=
  rfl

private theorem escapeLines_plain (row : Nat) {c : Char} (quote : c ≠ '"') (line : c ≠ '\n')
    (s : List Char) :
    escapeLines row (c :: s) = escapeChar c ++ escapeLines 0 s :=
  (if_neg (mt eq_of_beq quote)).trans (if_neg (mt eq_of_beq line))

private theorem escapeLines_of_ne (row row' : Nat) {c : Char} (quote : c ≠ '"') (s : List Char) :
    escapeLines row (c :: s) = escapeLines row' (c :: s) :=
  (if_neg (mt eq_of_beq quote)).trans (if_neg (mt eq_of_beq quote)).symm

private theorem escapeLines_front (c : Char) (s : List Char) :
    ∃ d t, escapeLines 2 (c :: s) = d :: t ∧ d ≠ '"' := by
  by_cases quote : c = '"'
  · subst quote
    exact ⟨'\\', _, escapeLines_full s, by decide⟩
  by_cases line : c = '\n'
  · subst line
    exact ⟨'\n', _, escapeLines_feed 2 s, by decide⟩
  · obtain ⟨d, t, written, -, front⟩ := escapeChar_front c
    refine ⟨d, t ++ escapeLines 0 s, ?_, front quote⟩
    rw [escapeLines_plain 2 quote line, written]
    rfl

private theorem escapeLines_inside {row : Nat} (behind : row = 1 ∨ row = 2) {s : List Char}
    (more : s ≠ []) (last : row = 1 → s ≠ ['"']) (rest : List Char) :
    ¬ ['"', '"'] <+: escapeLines row s ++ rest := by
  obtain ⟨c, s, rfl⟩ := List.exists_cons_of_ne_nil more
  by_cases quote : row = 1 ∧ c = '"'
  · obtain ⟨rfl, rfl⟩ := quote
    obtain ⟨d, s, rfl⟩ := List.exists_cons_of_ne_nil fun e => last rfl (congrArg ('"' :: ·) e)
    obtain ⟨e, t, written, front⟩ := escapeLines_front d s
    rw [escapeLines_quote (by omega), written]
    simp [front.symm]
  · have same : escapeLines row (c :: s) = escapeLines 2 (c :: s) := by
      rcases behind with rfl | rfl
      · have other : c ≠ '"' := fun e => quote ⟨rfl, e⟩
        exact escapeLines_of_ne 1 2 other s
      · rfl
    obtain ⟨e, t, written, front⟩ := escapeLines_front c s
    rw [same, written]
    simp [front.symm]

/-- A string is read back from its lines between three double quotes. -/
private theorem escapedLines_escapeLines (rest : List Char) (behind : ¬ ['"'] <+: rest) {row : Nat}
    (few : row ≤ 2) (s : List Char) :
    escapedLines false (escapeLines row s ++ '"' :: '"' :: '"' :: rest) = some (s, rest) := by
  induction s generalizing row with
  | nil => exact closes_escapedLines.closing 0 behind (by omega)
  | cons c s ih =>
    by_cases quote : c = '"'
    · subst quote
      by_cases full : row = 2
      · subst full
        rw [escapeLines_full, List.cons_append, List.cons_append, unescapes_escapedLines.letter _ rfl,
          ih (by omega)]
        rfl
      -- At the end of the string its own quotes and the last three are one row, which is read at once.
      rw [escapeLines_quote (by omega), List.cons_append]
      by_cases one : s = []
      · subst one
        exact closes_escapedLines.closing 1 behind (by omega)
      by_cases two : row + 1 = 1 ∧ s = ['"']
      · obtain ⟨first, rfl⟩ := two
        rw [first, escapeLines_quote (by omega)]
        exact closes_escapedLines.closing 2 behind (by omega)
      · have inside := escapeLines_inside (by omega) one (fun e f => two ⟨e, f⟩)
          ('"' :: '"' :: '"' :: rest)
        rw [closes_escapedLines.quote inside, ih (by omega)]
        rfl
    by_cases line : c = '\n'
    · subst line
      rw [escapeLines_feed, List.cons_append, escapedLines_feed, ih (by omega)]
      rfl
    · rw [escapeLines_plain row quote line, List.append_assoc,
        unescapes_escapedLines.escapeChar quote, ih (by omega)]
      rfl

/-! ### Single quotes on several lines -/

private theorem row_le_longestRow (c : Char) (row : Nat)
    (s : List Char) : row ≤ longestRow c row s := by
  induction s generalizing row with
  | nil => exact Nat.le_refl row
  | cons d s ih =>
    unfold longestRow
    split
    · exact Nat.le_trans (Nat.le_succ row) (ih (row + 1))
    · exact Nat.le_max_left _ _

private theorem longestRow_mono (c : Char) {row more : Nat} (h : row ≤ more) (s : List Char) :
    longestRow c row s ≤ longestRow c more s := by
  induction s generalizing row more with
  | nil => exact h
  | cons d s ih =>
    unfold longestRow
    split
    · exact ih (Nat.succ_le_succ h)
    · omega

private theorem longestRow_tail (c : Char) (row : Nat) (d : Char) (s : List Char) :
    longestRow c 0 s ≤ longestRow c row (d :: s) := by
  rw [longestRow]
  split
  · exact longestRow_mono c (Nat.zero_le _) s
  · exact Nat.le_max_right _ _

private theorem ne_of_longestRow_eq_zero {c : Char} {s : List Char} (none : longestRow c 0 s = 0) :
    ∀ d ∈ s, d ≠ c := by
  induction s with
  | nil => simp
  | cons d s ih =>
    have tail := longestRow_tail c 0 d s
    have other : d ≠ c := by
      rintro rfl
      have one := row_le_longestRow d 1 s
      simp [longestRow] at none
      omega
    simpa [other] using ih (by omega)

private theorem closes_literalLines : Closes '\'' literalLines where
  quote {s} inside := by
    match s, inside with
    | [], _ => rfl
    | c :: s, inside =>
      by_cases quote : c = '\''
      · subst quote
        match s, inside with
        | [], _ => rfl
        | d :: s, inside =>
          have other : d ≠ '\'' := fun e => inside (e ▸ ⟨s, rfl⟩)
          rw [literalLines]
          all_goals simp_all [isVisible]
      · rw [literalLines]
        all_goals simp_all [isVisible]
  closing {rest} own behind few := by
    have cases : own = 0 ∨ own = 1 ∨ own = 2 := by omega
    match rest, behind with
    | [], _ => rcases cases with rfl | rfl | rfl <;> rfl
    | c :: rest, behind =>
      have other : c ≠ '\'' := fun e => behind (e ▸ ⟨rest, rfl⟩)
      rcases cases with rfl | rfl | rfl <;> simp [List.replicate, literalLines, other]

private theorem literalLines_plain {c : Char} (quote : c ≠ '\'') (plain : isControl c = false)
    (s : List Char) : literalLines (c :: s) = (literalLines s).map (ahead [c]) := by
  have feed : c ≠ '\r' := by
    rintro rfl
    cases plain
  have shown : (c == '\n' || isVisible c) = true := by
    by_cases line : c = '\n'
    · simp [line]
    · simp [isVisible_of_not_isControl plain line]
  rw [literalLines]
  all_goals simp_all

/-- A string without three quotes in a row is read back from its lines between three single quotes. -/
private theorem literalLines_append (rest : List Char) (behind : ¬ ['\''] <+: rest) {s : List Char}
    (plain : ∀ c ∈ s, isControl c = false) (rows : longestRow '\'' 0 s ≤ 2) :
    literalLines (s ++ '\'' :: '\'' :: '\'' :: rest) = some (s, rest) := by
  induction s with
  | nil => exact closes_literalLines.closing 0 behind (by omega)
  | cons c s ih =>
    have hs := ih (fun c h => plain c (List.mem_cons_of_mem _ h))
      (Nat.le_trans (longestRow_tail _ 0 c s) rows)
    by_cases quote : c = '\''
    · subst quote
      by_cases one : s = []
      · subst one
        exact closes_literalLines.closing 1 behind (by omega)
      by_cases two : s = ['\'']
      · subst two
        exact closes_literalLines.closing 2 behind (by omega)
      · have inside : ¬ ['\'', '\''] <+: s ++ '\'' :: '\'' :: '\'' :: rest := by
          match s, one, two with
          | [c], _, two =>
            have other : c ≠ '\'' := fun e => two (e ▸ rfl)
            simp [other.symm]
          | c :: d :: s, _, _ =>
            intro three
            obtain ⟨rfl, rfl⟩ : '\'' = c ∧ '\'' = d := by simpa using three
            have many := row_le_longestRow '\'' 3 s
            simp [longestRow] at rows
            omega
        rw [List.cons_append, closes_literalLines.quote inside, hs]
        rfl
    · rw [List.cons_append, literalLines_plain quote (plain c List.mem_cons_self), hs]
      rfl

/-! ### The way that suits a string -/

private theorem Quotes.suited_literal {s : List Char} (h : suited s = .literal) :
    (∀ c ∈ s, isVisible c = true) ∧ ∀ c ∈ s, c ≠ '\'' := by
  have facts : s.any isControl = false ∧ longestRow '\'' 0 s = 0 ∧ s.contains '\n' = false := by
    unfold suited at h
    grind
  obtain ⟨plain, quotes, line⟩ := facts
  refine ⟨fun c hc => isVisible_of_not_isControl (by simpa using List.any_eq_false.mp plain c hc) ?_,
    ne_of_longestRow_eq_zero quotes⟩
  rintro rfl
  simp [hc] at line

private theorem Quotes.suited_literalLines {s : List Char} (h : suited s = .literalLines) :
    (∀ c ∈ s, isControl c = false) ∧ longestRow '\'' 0 s ≤ 2 := by
  have facts : s.any isControl = false ∧ longestRow '\'' 0 s ≤ 2 := by
    unfold suited at h
    grind
  exact ⟨fun c hc => by simpa using List.any_eq_false.mp facts.1 c hc, facts.2⟩

private theorem skipNewline_of_isVisible {c : Char} (visible : isVisible c = true) (s : List Char) :
    skipNewline (c :: s) = c :: s := by
  unfold skipNewline newline?
  split
  next h =>
    obtain ⟨rfl, -⟩ := List.cons.inj h
    cases visible
  next h =>
    obtain ⟨rfl, -⟩ := List.cons.inj h
    cases visible
  · rfl

private theorem skipNewline_opening (quotes : List Char) {s body : List Char}
    (front : '\n' ∉ s → ∃ d t, body = d :: t ∧ isVisible d = true) :
    ∃ t, opening quotes s ++ body = quotes ++ t ∧ skipNewline t = body := by
  by_cases line : '\n' ∈ s
  · exact ⟨'\n' :: body, by simp [opening, line], rfl⟩
  · obtain ⟨d, t, rfl, visible⟩ := front line
    exact ⟨d :: t, by simp [opening, line], skipNewline_of_isVisible visible t⟩

private theorem escapeLines_visible {s : List Char} (line : '\n' ∉ s) (rest : List Char) :
    ∃ d t, escapeLines 0 s ++ '"' :: rest = d :: t ∧ isVisible d = true := by
  match s, line with
  | [], _ => exact ⟨_, _, rfl, rfl⟩
  | c :: s, line =>
    by_cases quote : c = '"'
    · subst quote
      exact ⟨'"', _, congrArg (· ++ '"' :: rest) (escapeLines_quote Nat.zero_lt_two s), rfl⟩
    · obtain ⟨d, t, written, visible, -⟩ := escapeChar_front c
      have other : c ≠ '\n' := fun e => line (e ▸ List.mem_cons_self)
      refine ⟨d, t ++ escapeLines 0 s ++ '"' :: rest, ?_, visible⟩
      rw [escapeLines_plain 0 quote other, written]
      rfl

private theorem string_escaped (s rest : List Char) :
    string (Quotes.write .escaped s ++ '\n' :: rest) = some (String.ofList s, '\n' :: rest) := by
  have written : Quotes.write .escaped s ++ '\n' :: rest =
      '"' :: (escapeLine s ++ '"' :: '\n' :: rest) := by simp [Quotes.write]
  have single : ¬ ['"', '"'] <+: escapeLine s ++ '"' :: '\n' :: rest := by
    match s with
    | [] => simp [escapeLine]
    | c :: s =>
      obtain ⟨d, t, eq, front⟩ := escapeLine_front (c := c) s
      simp [eq, front.symm]
  have line := unescape?_escapeLine s ('\n' :: rest)
  rw [written]
  unfold string
  split
  next h => exact absurd ⟨_, (List.cons.inj h).2.symm⟩ single
  next h => cases (List.cons.inj h).1
  · simp [lineString, line]

private theorem string_literal {s : List Char} (visible : ∀ c ∈ s, isVisible c = true)
    (quotes : ∀ c ∈ s, c ≠ '\'') (rest : List Char) :
    string (Quotes.write .literal s ++ '\n' :: rest) = some (String.ofList s, '\n' :: rest) := by
  have written : Quotes.write .literal s ++ '\n' :: rest = '\'' :: (s ++ '\'' :: '\n' :: rest) := by
    simp [Quotes.write]
  have single : ¬ ['\'', '\''] <+: s ++ '\'' :: '\n' :: rest := by
    match s, quotes with
    | [], _ => simp
    | c :: s, quotes => simp [(quotes c List.mem_cons_self).symm]
  have line := literalBody_append ('\n' :: rest) visible quotes
  rw [written]
  unfold string
  split
  next h => cases (List.cons.inj h).1
  next h => exact absurd ⟨_, (List.cons.inj h).2.symm⟩ single
  · simp [lineString, line]

private theorem string_escapedLines (s rest : List Char) :
    string (Quotes.write .escapedLines s ++ '\n' :: rest) = some (String.ofList s, '\n' :: rest) := by
  obtain ⟨t, opened, body⟩ := skipNewline_opening ['"', '"', '"'] fun line : '\n' ∉ s =>
    escapeLines_visible line ('"' :: '"' :: '\n' :: rest)
  have written : Quotes.write .escapedLines s ++ '\n' :: rest = '"' :: '"' :: '"' :: t := by
    simpa [Quotes.write] using opened
  have read := escapedLines_escapeLines ('\n' :: rest) (by simp) (Nat.zero_le 2) s
  rw [written]
  change (escapedLines false (skipNewline t)).map _ = _
  rw [body, read]
  rfl

private theorem string_literalLines {s : List Char} (plain : ∀ c ∈ s, isControl c = false)
    (rows : longestRow '\'' 0 s ≤ 2) (rest : List Char) :
    string (Quotes.write .literalLines s ++ '\n' :: rest) = some (String.ofList s, '\n' :: rest) := by
  have front : '\n' ∉ s → ∃ d t, s ++ '\'' :: '\'' :: '\'' :: '\n' :: rest = d :: t ∧
      isVisible d = true := by
    intro line
    match s, plain, line with
    | [], _, _ => exact ⟨_, _, rfl, rfl⟩
    | c :: s, plain, line =>
      have other : c ≠ '\n' := fun e => line (e ▸ List.mem_cons_self)
      exact ⟨c, _, rfl, isVisible_of_not_isControl (plain c List.mem_cons_self) other⟩
  obtain ⟨t, opened, body⟩ := skipNewline_opening ['\'', '\'', '\''] front
  have written : Quotes.write .literalLines s ++ '\n' :: rest = '\'' :: '\'' :: '\'' :: t := by
    simpa [Quotes.write] using opened
  have read := literalLines_append ('\n' :: rest) (by simp) plain rows
  rw [written]
  change (literalLines (skipNewline t)).map _ = _
  rw [body, read]
  rfl

/-- **A written string is read back**, and what follows its line is left. -/
theorem string_writeString (s : String) (rest : List Char) :
    string (writeString s ++ '\n' :: rest) = some (s, '\n' :: rest) := by
  suffices h : string ((Quotes.suited s.toList).write s.toList ++ '\n' :: rest) =
      some (String.ofList s.toList, '\n' :: rest) by simpa [writeString] using h
  cases way : Quotes.suited s.toList with
  | escaped => exact string_escaped s.toList rest
  | literal =>
    obtain ⟨visible, quotes⟩ := Quotes.suited_literal way
    exact string_literal visible quotes rest
  | escapedLines => exact string_escapedLines s.toList rest
  | literalLines =>
    obtain ⟨plain, rows⟩ := Quotes.suited_literalLines way
    exact string_literalLines plain rows rest

end Peripherals.Toml

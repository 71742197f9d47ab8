import Mathlib.Data.List.Forall2
import Peripherals.Json.Printer
import Peripherals.Json.Reader
import Peripherals.Proofs.Text
/-!
JSON texts. Main statement: what is written for a value is read back, except that the keys of an object
are then in order.
-/

set_option autoImplicit false

namespace Peripherals.Json

open Peripherals.Text (decimal hexadecimal isDigit padLeft)

/-! ### Strings -/

private theorem hexQuad?_written {n : Nat} (control : n < 0x20) :
    ∃ a b c d, padLeft 4 '0' (hexadecimal n) = [a, b, c, d] ∧
      ∀ rest, unicodeEscape? (a :: b :: c :: d :: rest) = some (Char.ofNat n, rest) := by
  have all : ∀ n < 0x20, (padLeft 4 '0' (hexadecimal n)).length = 4 ∧
      Text.digitsValue? 16 (padLeft 4 '0' (hexadecimal n)) = some n := by
    decide +kernel
  obtain ⟨size, value⟩ := all n control
  match eq : padLeft 4 '0' (hexadecimal n), size with
  | [a, b, c, d], _ =>
    rw [eq] at value
    refine ⟨a, b, c, d, rfl, fun rest => ?_⟩
    have low : ¬ (0xD800 ≤ n ∧ n ≤ 0xDBFF) := by omega
    have high : ¬ (0xDC00 ≤ n ∧ n ≤ 0xDFFF) := by omega
    simp [unicodeEscape?, hexQuad?, value, low, high]

private theorem escapeChar_cases (c : Char) :
    (∃ x, escapeChar c = ['\\', x] ∧ x ≠ 'u' ∧ shortEscape? x = some c) ∨
    (∃ x y z w, escapeChar c = ['\\', 'u', x, y, z, w] ∧
      ∀ rest, unicodeEscape? (x :: y :: z :: w :: rest) = some (c, rest)) ∨
    (escapeChar c = [c] ∧ c ≠ '"' ∧ c ≠ '\\' ∧ ¬ c.toNat < 0x20) := by
  have named : ∀ {n : Nat}, c.toNat = n → c = Char.ofNat n := fun h => h ▸ (Char.ofNat_toNat c).symm
  by_cases quote : c = '"'
  · exact .inl ⟨'"', by simp [escapeChar, quote], by decide, congrArg some quote.symm⟩
  by_cases slash : c = '\\'
  · exact .inl ⟨'\\', by simp [escapeChar, slash], by decide, congrArg some slash.symm⟩
  by_cases back : c.toNat = 8
  · exact .inl ⟨'b', by simp [escapeChar, named back], by decide, named back ▸ rfl⟩
  by_cases page : c.toNat = 12
  · exact .inl ⟨'f', by simp [escapeChar, named page], by decide, named page ▸ rfl⟩
  by_cases line : c = '\n'
  · exact .inl ⟨'n', by simp [escapeChar, line], by decide, line ▸ rfl⟩
  by_cases feed : c = '\r'
  · exact .inl ⟨'r', by simp [escapeChar, feed], by decide, feed ▸ rfl⟩
  by_cases tab : c = '\t'
  · exact .inl ⟨'t', by simp [escapeChar, tab], by decide, tab ▸ rfl⟩
  by_cases control : c.toNat < 0x20
  · obtain ⟨x, y, z, w, written, read⟩ := hexQuad?_written control
    refine .inr (.inl ⟨x, y, z, w, ?_, fun rest => (read rest).trans ?_⟩)
    · simp [escapeChar, quote, slash, back, page, line, feed, tab, control, written]
    · rw [← named rfl]
  · refine .inr (.inr ⟨?_, quote, slash, control⟩)
    simp [escapeChar, quote, slash, back, page, line, feed, tab, control]

private theorem stringBody_escaped {s : List Char} {fuel : Nat} (seen rest : List Char)
    (enough : s.length < fuel) :
    stringBody fuel seen (s.flatMap escapeChar ++ '"' :: rest) =
      some (String.ofList (seen.reverse ++ s), rest) := by
  induction s generalizing fuel seen with
  | nil =>
    cases fuel with
    | zero => cases enough
    | succ n => simp [stringBody]
  | cons c s ih =>
    cases fuel with
    | zero => cases enough
    | succ n =>
      have tail := ih (c :: seen) (Nat.lt_of_succ_lt_succ enough)
      rw [List.reverse_cons, List.append_assoc, List.singleton_append] at tail
      rw [List.flatMap_cons, List.append_assoc]
      obtain ⟨x, written, unnumbered, letter⟩ | ⟨x, y, z, w, written, number⟩ |
        ⟨written, open_, slash, plain⟩ := escapeChar_cases c
      · rw [written]
        simp [stringBody, letter, tail]
      · rw [written]
        simp [stringBody, number, tail]
      · rw [written]
        simp [stringBody, slash, plain, tail]

private theorem escapeChar_ne_nil (c : Char) : escapeChar c ≠ [] := by
  obtain ⟨x, written, -⟩ | ⟨x, y, z, w, written, -⟩ | ⟨written, -⟩ := escapeChar_cases c <;>
    exact fun none => nomatch written.symm.trans none

private theorem length_le_escaped (s : List Char) : s.length ≤ (s.flatMap escapeChar).length := by
  induction s with
  | nil => exact Nat.le_refl 0
  | cons c s ih =>
    have filled := List.length_pos_iff.mpr (escapeChar_ne_nil c)
    rw [List.length_cons, List.flatMap_cons, List.length_append]
    omega

private theorem stringTail_escaped (s : String) (rest : List Char) :
    stringTail (s.toList.flatMap escapeChar ++ '"' :: rest) = some (s, rest) := by
  have enough := length_le_escaped s.toList
  rw [stringTail, stringBody_escaped [] rest (by rw [List.length_append]; omega)]
  rw [List.reverse_nil, List.nil_append, String.ofList_toList]

private theorem toList_quote (s : String) (rest : List Char) :
    (quote s).toList ++ rest = '"' :: (s.toList.flatMap escapeChar ++ '"' :: rest) := by
  simp [quote]

/-! ### Values -/

/-- A text spells a value if it is read as the value wherever it stands, except in front of something
that could belong to a number. -/
structure Spells (w : List Char) (v : Json) : Prop where
  front : ∃ c t, w = c :: t ∧ isSpace c = false ∧ c ≠ ']'
  read : ∀ {fuel : Nat} {rest : List Char}, w.length ≤ fuel → (∀ c ∈ rest.head?, isNumeric c = false) →
    value fuel (w ++ rest) = some (v, rest)

private theorem Spells.read_before {w : List Char} {v : Json} (spells : Spells w v) {fuel : Nat}
    (enough : w.length ≤ fuel) {c : Char} (behind : isNumeric c = false) (rest : List Char) :
    value fuel (w ++ c :: rest) = some (v, c :: rest) :=
  spells.read enough fun _ head => Option.some.inj head ▸ behind

private theorem skipSpace_of_front {c : Char} (solid : isSpace c = false) (s : List Char) :
    skipSpace (c :: s) = c :: s :=
  List.dropWhile_cons_of_neg (by simp [solid])

private theorem Spells.ofText? {s : String} {v : Json}
    (spells : Spells s.toList v) : ofText? s = some v := by
  have enough : s.toList.length ≤ 2 * s.toList.length + 2 := by omega
  have read := spells.read enough fun c (none : c ∈ [].head?) => nomatch none
  rw [List.append_nil] at read
  simp only [Json.ofText?, read, Option.bind_eq_bind, Option.bind_some]
  rfl

private theorem spells_of {c : Char} {t : List Char} {v : Json} (solid : isSpace c = false)
    (open_ : c ≠ ']')
    (read : ∀ {fuel : Nat} {rest : List Char}, t.length ≤ fuel →
      (∀ c ∈ rest.head?, isNumeric c = false) → value (fuel + 1) (c :: (t ++ rest)) = some (v, rest)) :
    Spells (c :: t) v := by
  refine ⟨⟨c, t, rfl, solid, open_⟩, fun {fuel} rest enough behind => ?_⟩
  cases fuel with
  | zero => cases enough
  | succ n => exact read (Nat.le_of_succ_le_succ enough) behind

private theorem spells_null : Spells "null".toList .null := by
  rw [show "null".toList = ['n', 'u', 'l', 'l'] from rfl]
  exact spells_of rfl (by decide) fun _ _ => rfl

private theorem spells_bool (b : Bool) : Spells (toText (.bool b)).toList (.bool b) := by
  cases b with
  | false =>
    rw [show (toText (.bool false)).toList = ['f', 'a', 'l', 's', 'e'] from rfl]
    exact spells_of rfl (by decide) fun _ _ => rfl
  | true =>
    rw [show (toText (.bool true)).toList = ['t', 'r', 'u', 'e'] from rfl]
    exact spells_of rfl (by decide) fun _ _ => rfl

private theorem spells_text (s : String) : Spells (toText (.text s)).toList (.text s) := by
  have written : (quote s).toList = '"' :: (s.toList.flatMap escapeChar ++ ['"']) := by simp [quote]
  rw [toText, written]
  refine spells_of rfl (by decide) fun _ _ => ?_
  rw [value, skipSpace_of_front rfl, List.append_assoc, List.singleton_append]
  simp [stringTail_escaped]

private theorem isNumeric_of_mem_signedDecimal
    {n : Int} : ∀ c ∈ Text.signedDecimal n, isNumeric c = true := by
  have digits (k : Nat) : ∀ c ∈ decimal k, isNumeric c = true := by
    intro c member
    simp [isNumeric, Text.isDigit_of_mem_decimal c member]
  cases n with
  | ofNat k => exact digits k
  | negSucc k =>
    intro c member
    rcases List.mem_cons.mp member with rfl | digit
    · rfl
    · exact digits (k + 1) c digit

private theorem number?_signedDecimal {n : Int} (low : -(Nat.pow 2 63 : Nat) ≤ n)
    (high : n < (Nat.pow 2 64 : Nat)) : number? (Text.signedDecimal n) = some (.int n) := by
  cases n with
  | ofNat k =>
    obtain ⟨c, t, written, digit, -⟩ := Text.decimal_front k
    have fits : k < Nat.pow 2 64 := Int.ofNat_lt.mp high
    have read := Text.natural?_decimal k
    change number? (decimal k) = _
    rw [written] at read ⊢
    unfold number?
    split
    · next same =>
      obtain ⟨rfl, -⟩ := List.cons.inj same
      cases digit
    · simp only [read, if_pos fits]
      rfl
  | negSucc k =>
    have fits : k + 1 ≤ Nat.pow 2 63 := by
      rw [Int.negSucc_eq] at low
      omega
    simp only [Text.signedDecimal, number?, Text.natural?_decimal, fits, Nat.zero_lt_succ, decide_true,
      Bool.and_self, if_true]
    rfl

private theorem isSpace_of_isNumeric {c : Char} (numeric : isNumeric c = true) : isSpace c = false := by
  cases space : isSpace c with
  | false => rfl
  | true =>
    simp only [isSpace, Bool.or_eq_true, beq_iff_eq] at space
    rcases space with ((rfl | rfl) | rfl) | rfl <;> cases numeric

private theorem spells_number {w : List Char} {v : Json} (filled : w ≠ [])
    (numeric : ∀ c ∈ w, isNumeric c = true)
    (read : number? w = some v) : Spells w v := by
  cases w with
  | nil => exact absurd rfl filled
  | cons c t =>
    have first := numeric c List.mem_cons_self
    have solid := isSpace_of_isNumeric first
    have opens : c ≠ ']' := by
      rintro rfl
      cases first
    refine spells_of solid opens fun {fuel rest} _ behind => ?_
    have taken : (c :: (t ++ rest)).takeWhile isNumeric = c :: t := by
      rw [← List.cons_append, List.takeWhile_append_of_pos numeric]
      cases rest with
      | nil => simp
      | cons d s => simp [behind d rfl]
    have left : (c :: (t ++ rest)).dropWhile isNumeric = rest := by
      rw [← List.cons_append, List.dropWhile_append_of_pos numeric]
      exact Text.dropWhile_eq_self_of_head behind
    rw [value, skipSpace_of_front solid]
    split
    case h_7 => simp only [taken, left, read, Option.bind_eq_bind, Option.bind_some]
    all_goals
      next same =>
        obtain ⟨rfl, -⟩ := List.cons.inj same
        cases first

private theorem spells_int {n : Int} (low : -(Nat.pow 2 63 : Nat) ≤ n)
    (high : n < (Nat.pow 2 64 : Nat)) :
    Spells (toText (.int n)).toList (.int n) := by
  rw [toText, String.toList_ofList]
  have read := number?_signedDecimal low high
  refine spells_number (fun none => ?_) isNumeric_of_mem_signedDecimal read
  cases n with
  | ofNat k => exact Text.decimal_ne_nil k none
  | negSucc k => cases none

/-! ### Values with parts -/

private theorem intercalate_cons {w u : List Char} {ws : List (List Char)} :
    [','].intercalate (w :: u :: ws) = w ++ ',' :: [','].intercalate (u :: ws) := by
  simp [List.intercalate]

private theorem intercalate_front (c : Char) (t : List Char) (ws : List (List Char)) :
    ∃ s, [','].intercalate ((c :: t) :: ws) = c :: s := by
  cases ws with
  | nil => exact ⟨t, List.intercalate_singleton⟩
  | cons u ws => exact ⟨_, intercalate_cons⟩

/-- A reader of rows reads an item up to the comma or the bracket behind it. -/
structure ReadsRows {α : Type} (Good : List Char → α → Prop)
    (row : Nat → List Char → Option (List α × List Char)) (close : Char) : Prop where
  last : ∀ {w : List Char} {a : α} {fuel : Nat} {rest : List Char}, Good w a → w.length ≤ fuel →
    row (fuel + 1) (w ++ close :: rest) = some ([a], rest)
  more : ∀ {w : List Char} {a : α} {fuel : Nat} {s rest : List Char} {others : List α}, Good w a →
    w.length ≤ fuel → row fuel s = some (others, rest) →
    row (fuel + 1) (w ++ ',' :: s) = some (a :: others, rest)

private theorem ReadsRows.reads {α : Type} {Good : List Char → α → Prop}
    {row : Nat → List Char → Option (List α × List Char)} {close : Char} (rows : ReadsRows Good row close)
    {ws : List (List Char)} {items : List α} (each : List.Forall₂ Good ws items) (filled : items ≠ [])
    {fuel : Nat} (rest : List Char) (enough : ([','].intercalate ws).length < fuel) :
    row fuel ([','].intercalate ws ++ close :: rest) = some (items, rest) := by
  induction each generalizing fuel with
  | nil => exact absurd rfl filled
  | @cons w a ws items first others ih =>
    cases fuel with
    | zero => cases enough
    | succ n =>
      cases others with
      | nil =>
        rw [List.intercalate_singleton] at enough ⊢
        exact rows.last first (Nat.le_of_lt_succ enough)
      | @cons u b ws items second others =>
        rw [intercalate_cons] at enough ⊢
        rw [List.length_append, List.length_cons] at enough
        rw [List.append_assoc, List.cons_append]
        exact rows.more first (by omega) (ih (List.cons_ne_nil _ _) (by omega))

private theorem readsRows_elements : ReadsRows Spells elements ']' where
  last spells enough := by
    rw [elements, spells.read_before enough rfl]
    simp [skipSpace_of_front (c := ']') rfl]
  more spells enough others := by
    rw [elements, spells.read_before enough rfl]
    simp [skipSpace_of_front (c := ',') rfl, others]

/-- A text spells a field: its name between quotes, a colon, and the value. -/
def SpellsField (w : List Char) (f : String × Json) : Prop :=
  ∃ u, w = (quote f.1).toList ++ ':' :: u ∧ Spells u f.2

private theorem readsRows_members : ReadsRows SpellsField members '}' where
  last := by
    rintro _ f fuel rest ⟨u, rfl, spells⟩ enough
    rw [List.length_append, List.length_cons] at enough
    have within : u.length ≤ fuel := by omega
    have read := spells.read_before within (show isNumeric '}' = false from rfl) rest
    rw [List.append_assoc, toList_quote, List.cons_append, members, skipSpace_of_front rfl]
    simp [stringTail_escaped, skipSpace_of_front (c := ':') rfl, skipSpace_of_front (c := '}') rfl, read]
  more := by
    rintro _ f fuel s rest fields ⟨u, rfl, spells⟩ enough others
    rw [List.length_append, List.length_cons] at enough
    have within : u.length ≤ fuel := by omega
    have read := spells.read_before within (show isNumeric ',' = false from rfl) s
    rw [List.append_assoc, toList_quote, List.cons_append, members, skipSpace_of_front rfl]
    simp [stringTail_escaped, skipSpace_of_front (c := ':') rfl, skipSpace_of_front (c := ',') rfl, read,
      others]

private theorem spells_array {ws : List (List Char)} {items : List Json}
    (each : List.Forall₂ Spells ws items) :
    Spells ('[' :: ([','].intercalate ws ++ [']'])) (.array items) := by
  refine spells_of rfl (by decide) fun {fuel rest} enough _ => ?_
  rw [value, skipSpace_of_front rfl, List.append_assoc, List.singleton_append]
  rw [List.length_append, List.length_singleton] at enough
  cases each with
  | nil => simp [List.intercalate, skipSpace_of_front (c := ']') rfl]
  | @cons w v ws items first others =>
    obtain ⟨c, t, rfl, solid, open_⟩ := first.front
    have read := readsRows_elements.reads (.cons first others) (List.cons_ne_nil _ _) rest enough
    obtain ⟨s, front⟩ := intercalate_front c t ws
    rw [front, List.cons_append] at read ⊢
    simp [skipSpace_of_front solid, open_, read]

private theorem spells_object {ws : List (List Char)} {fields : List (String × Json)}
    (each : List.Forall₂ SpellsField ws fields) :
    Spells ('{' :: ([','].intercalate ws ++ ['}'])) (.object fields) := by
  refine spells_of rfl (by decide) fun {fuel rest} enough _ => ?_
  rw [value, skipSpace_of_front rfl, List.append_assoc, List.singleton_append]
  rw [List.length_append, List.length_singleton] at enough
  cases each with
  | nil => simp [List.intercalate, skipSpace_of_front (c := '}') rfl]
  | @cons w f ws fields first others =>
    have read := readsRows_members.reads (.cons first others) (List.cons_ne_nil _ _) rest enough
    obtain ⟨u, rfl, -⟩ := first
    rw [toList_quote] at read ⊢
    obtain ⟨s, front⟩ := intercalate_front '"' (f.1.toList.flatMap escapeChar ++ '"' :: ':' :: u) ws
    rw [front, List.cons_append] at read ⊢
    simp [skipSpace_of_front (c := '"') rfl, read]

/-! ### Documents -/

mutual

/-- The fields of all objects are put in the order of their names. -/
def inOrder : Json → Json
  | .array items => .array (itemsInOrder items)
  | .object fields => .object ((fieldsInOrder fields).mergeSort fun f g => f.1 ≤ g.1)
  | v => v

def itemsInOrder : List Json → List Json
  | [] => []
  | v :: vs => v.inOrder :: itemsInOrder vs

def fieldsInOrder : List (String × Json) → List (String × Json)
  | [] => []
  | (k, v) :: fs => (k, v.inOrder) :: fieldsInOrder fs

end

/-- Values without fractions and with integers of 64 bits. -/
inductive Exact : Json → Prop
  | null : Exact .null
  | bool (b : Bool) : Exact (.bool b)
  | int {n : Int} (low : -(Nat.pow 2 63 : Nat) ≤ n) (high : n < (Nat.pow 2 64 : Nat)) : Exact (.int n)
  | text (s : String) : Exact (.text s)
  | array {items : List Json} (each : ∀ v ∈ items, Exact v) : Exact (.array items)
  | object {fields : List (String × Json)} (each : ∀ f ∈ fields, Exact f.2) : Exact (.object fields)

private theorem itemTexts_eq (items : List Json) : itemTexts items = items.map toText := by
  induction items with
  | nil => rfl
  | cons v vs ih => rw [itemTexts, ih, List.map_cons]

private theorem itemsInOrder_eq (items : List Json) : itemsInOrder items = items.map inOrder := by
  induction items with
  | nil => rfl
  | cons v vs ih => rw [itemsInOrder, ih, List.map_cons]

private theorem fieldTexts_eq (fields : List (String × Json)) :
    fieldTexts fields = fields.map fun f => (f.1, quote f.1 ++ ":" ++ f.2.toText) := by
  induction fields with
  | nil => rfl
  | cons f fs ih => rw [fieldTexts, ih, List.map_cons]

theorem fieldsInOrder_eq (fields : List (String × Json)) :
    fieldsInOrder fields = fields.map fun f => (f.1, f.2.inOrder) := by
  induction fields with
  | nil => rfl
  | cons f fs ih => rw [fieldsInOrder, ih, List.map_cons]

private theorem mergeSort_values {α β : Type} (fields : List (String × α)) (g : String × α → β) :
    (fields.map fun f => (f.1, g f)).mergeSort (fun a b => a.1 ≤ b.1) =
      (fields.mergeSort fun a b => a.1 ≤ b.1).map fun f => (f.1, g f) := by
  rw [List.map_mergeSort]
  exact fun _ _ _ _ => rfl

private theorem Exact.spells {v : Json} (fits : Exact v) : Spells v.toText.toList v.inOrder := by
  induction fits with
  | null => exact spells_null
  | bool b => exact spells_bool b
  | int low high => exact spells_int low high
  | text s => exact spells_text s
  | @array items _ ih =>
    have written : (toText (.array items)).toList =
        '[' :: ([','].intercalate (items.map fun v => v.toText.toList) ++ [']']) := by
      simp [toText, itemTexts_eq, String.toList_intercalate, Function.comp_def]
    rw [written, inOrder, itemsInOrder_eq]
    refine spells_array ?_
    rw [List.forall₂_map_left_iff, List.forall₂_map_right_iff]
    exact List.forall₂_same.mpr ih
  | @object fields _ ih =>
    let sorted := fields.mergeSort fun f g => f.1 ≤ g.1
    have written : (toText (.object fields)).toList = '{' :: ([','].intercalate
        (sorted.map fun f => (quote f.1 ++ ":" ++ f.2.toText).toList) ++ ['}']) := by
      rw [toText, fieldTexts_eq, mergeSort_values]
      simp [sorted, String.toList_intercalate, Function.comp_def]
    have ordered : inOrder (.object fields) = .object (sorted.map fun f => (f.1, f.2.inOrder)) := by
      rw [inOrder, fieldsInOrder_eq, mergeSort_values]
    rw [written, ordered]
    refine spells_object ?_
    rw [List.forall₂_map_left_iff, List.forall₂_map_right_iff]
    refine List.forall₂_same.mpr fun f member => ⟨f.2.toText.toList, by simp, ?_⟩
    exact ih f ((List.mergeSort_perm fields _).mem_iff.mp member)

/-- **What is written for a value is read back**, with the keys in order. -/
theorem ofText?_toText {v : Json} (fits : Exact v) : ofText? v.toText = some v.inOrder :=
  fits.spells.ofText?

end Peripherals.Json

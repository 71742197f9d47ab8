import Peripherals.Proofs.Text.Utf8
import Peripherals.Text.Blank
import Peripherals.Text.Numeral
/-!
Numerals and other texts of printable ASCII. Main statements: different numbers have different
numerals, a numeral begins with a zero only if it is one, and nothing is lost when such a text is
trimmed.
-/

set_option autoImplicit false

namespace Peripherals.Text

def isPlain (c : Char) : Bool :=
  33 ≤ c.toNat && c.toNat ≤ 126

theorem isDigit_digitChar {n : Nat} (h : n < 10) : isDigit (digitChar n) = true := by
  have : n = 0 ∨ n = 1 ∨ n = 2 ∨ n = 3 ∨ n = 4 ∨ n = 5 ∨ n = 6 ∨ n = 7 ∨ n = 8 ∨ n = 9 := by omega
  rcases this with rfl | rfl | rfl | rfl | rfl | rfl | rfl | rfl | rfl | rfl <;> rfl

private theorem isDigit_of_mem_digitsInto {n : Nat} {known : List Char}
    (h : ∀ c ∈ known, isDigit c = true) : ∀ c ∈ digitsInto 10 n known, isDigit c = true := by
  induction n using Nat.strongRecOn generalizing known with
  | _ n ih =>
    rw [digitsInto]
    split
    · next more =>
      refine ih _ (Nat.div_lt_self (by omega) more.1) ?_
      intro c member
      rcases List.mem_cons.mp member with rfl | old
      · exact isDigit_digitChar (Nat.mod_lt _ (by omega))
      · exact h c old
    · intro c member
      rcases List.mem_cons.mp member with rfl | old
      · exact isDigit_digitChar (by omega)
      · exact h c old

theorem isDigit_of_mem_decimal {n : Nat} : ∀ c ∈ decimal n, isDigit c = true :=
  isDigit_of_mem_digitsInto fun _ member => nomatch member

theorem isDigit_of_mem_number {n : Nat} : ∀ c ∈ (number n).toList, isDigit c = true := by
  rw [number, String.toList_ofList]
  exact isDigit_of_mem_decimal

private theorem digitsInto_front {n : Nat} (positive : 0 < n) (known : List Char) :
    ∃ c t, digitsInto 10 n known = c :: t ∧ c ≠ '0' := by
  induction n using Nat.strongRecOn generalizing known with
  | _ n ih =>
    rw [digitsInto]
    split
    · next more => exact ih _ (Nat.div_lt_self (by omega) more.1) (by omega) _
    · have all : ∀ n < 10, 0 < n → digitChar n ≠ '0' := by decide
      exact ⟨_, _, rfl, all n (by omega) positive⟩

theorem decimal_front (n : Nat) :
    ∃ c t, decimal n = c :: t ∧ isDigit c = true ∧ (c = '0' → t = []) := by
  by_cases zero : n = 0
  · exact ⟨'0', [], by rw [zero, decimal, digitsInto]; rfl, rfl, fun _ => rfl⟩
  · obtain ⟨c, t, written, front⟩ := digitsInto_front (Nat.pos_of_ne_zero zero) []
    have spelled : decimal n = c :: t := written
    exact ⟨c, t, spelled, isDigit_of_mem_decimal c (spelled ▸ List.mem_cons_self),
      fun e => absurd e front⟩

theorem number_ne_empty (n : Nat) : (number n).toList ≠ [] := by
  rw [number, String.toList_ofList]
  exact decimal_ne_nil n

theorem number_injective {m n : Nat} (same : number m = number n) : m = n := by
  have spelled : decimal m = decimal n := String.ofList_injective same
  have read := natural?_decimal m
  rw [spelled, natural?_decimal] at read
  exact (Option.some.inj read).symm

theorem number_zero : number 0 = "0" := by
  rw [number, decimal, digitsInto]
  rfl

theorem bytesOf_number_injective {m n : Nat} (same : bytesOf (number m) = bytesOf (number n)) :
    m = n :=
  number_injective (bytesOf_injective same)

/-! ### Blanks -/

theorem isBlank_of_isPlain {c : Char} (plain : isPlain c = true) : isBlank c = false := by
  simp only [isPlain, Bool.and_eq_true, decide_eq_true_eq] at plain
  simp only [isBlank, Bool.or_eq_false_iff, Bool.and_eq_false_iff, decide_eq_false_iff_not,
    beq_eq_false_iff_ne]
  omega

theorem dropWhile_eq_self_of_head {p : Char → Bool} {s : List Char} (head : ∀ c ∈ s.head?, p c = false) :
    s.dropWhile p = s := by
  cases s with
  | nil => rfl
  | cons c s => exact List.dropWhile_cons_of_neg (by simp [head c rfl])

/-- A text without a blank at either end is its own trimming. -/
theorem trim_eq_self {s : List Char} (head : ∀ c ∈ s.head?, isBlank c = false)
    (last : ∀ c ∈ s.getLast?, isBlank c = false) : trim s = s := by
  rw [trim, dropWhile_eq_self_of_head head, dropEndWhile,
    dropWhile_eq_self_of_head (by rwa [List.head?_reverse]), List.reverse_reverse]

theorem trim_of_plain {s : List Char} (plain : ∀ c ∈ s, isPlain c = true) : trim s = s :=
  trim_eq_self (fun c head => isBlank_of_isPlain (plain c (List.mem_of_mem_head? head)))
    fun c last => isBlank_of_isPlain (plain c (List.mem_of_mem_getLast? last))

end Peripherals.Text

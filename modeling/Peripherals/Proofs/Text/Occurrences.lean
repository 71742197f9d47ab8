import Mathlib.Data.List.Infix
import Peripherals.Text.Blank
/-!
Where a word stands in a text. Main statement: a word that cannot overlap with itself, between two texts
in which it does not occur, stands there once.
-/

set_option autoImplicit false

namespace Peripherals.Text

theorem occursIn_iff {needle s : List Char} : occursIn needle s = true ↔ needle <:+: s := by
  induction s with
  | nil => simp [occursIn]
  | cons c s ih => rw [occursIn, Bool.or_eq_true, List.isPrefixOf_iff_prefix, ih, List.infix_cons_iff]

variable {w : List Char}

/-- Nothing that the word begins with is an end of it, but nothing at all and the whole word. -/
def Unbordered (w : List Char) : Prop :=
  ∀ f, f <:+ w → f <+: w → f = [] ∨ f = w

instance (w : List Char) : Decidable (Unbordered w) :=
  decidable_of_iff (∀ f ∈ w.tails, f <+: w → f = [] ∨ f = w) (by simp [Unbordered])

private theorem Unbordered.again (unbordered : Unbordered w) {e x y : List Char}
    (same : w ++ x = e ++ (w ++ y)) : e = [] ∨ w <+: e := by
  rcases List.append_eq_append_iff.mp same with ⟨f, rfl, -⟩ | ⟨f, whole, rest⟩
  · exact .inr (List.prefix_append w f)
  · -- what is left of the word behind `e` is a beginning of the second occurrence
    have ending : f <:+ w := ⟨e, whole.symm⟩
    have beginning : f <+: w := by
      refine List.prefix_of_prefix_length_le (rest ▸ List.prefix_append f x) (List.prefix_append w y) ?_
      exact ending.length_le
    rcases unbordered f ending beginning with rfl | rfl
    · rw [List.append_nil] at whole
      exact .inr (whole ▸ List.prefix_refl w)
    · exact .inl (List.eq_nil_of_length_eq_zero (by simpa using congrArg List.length whole))

private theorem Unbordered.once (unbordered : Unbordered w) {p t a b : List Char} (before : ¬ w <:+: p)
    (behind : ¬ w <:+: t) (same : p ++ (w ++ t) = a ++ (w ++ b)) : b = t := by
  rcases List.append_eq_append_iff.mp same with ⟨e, -, inside⟩ | ⟨e, whole, inside⟩
  · rcases unbordered.again inside with rfl | ⟨e', rfl⟩
    · exact (List.append_cancel_left inside).symm
    · rw [List.append_assoc] at inside
      refine absurd ⟨e', b, ?_⟩ behind
      rw [List.append_assoc]
      exact (List.append_cancel_left inside).symm
  · rcases unbordered.again inside with rfl | begins
    · exact List.append_cancel_left inside
    · refine absurd (begins.isInfix.trans ?_) before
      exact whole ▸ (List.suffix_append a e).isInfix

theorem Unbordered.infix_iff (unbordered : Unbordered w) {p t d : List Char} (before : ¬ w <:+: p)
    (behind : ¬ w <:+: t) : w ++ d <:+: p ++ (w ++ t) ↔ d <+: t := by
  constructor
  · rintro ⟨a, b, same⟩
    rw [List.append_assoc, List.append_assoc] at same
    exact ⟨b, unbordered.once before behind same.symm⟩
  · rintro ⟨b, rfl⟩
    exact ⟨p, b, by simp only [List.append_assoc]⟩

/-- In front of a text, characters with which the word does not begin add no occurrence. -/
theorem infix_behind {c : Char} {d s : List Char} (apart : c ∉ d) (found : c :: w <:+: d ++ s) :
    c :: w <:+: s := by
  induction d with
  | nil => exact found
  | cons x d ih =>
    rw [List.mem_cons, not_or] at apart
    rcases List.infix_cons_iff.mp found with first | later
    · exact absurd (List.cons_prefix_cons.mp first).1 apart.1
    · exact ih apart.2 later

end Peripherals.Text

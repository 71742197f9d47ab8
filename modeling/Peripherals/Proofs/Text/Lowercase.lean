import Mathlib.Data.List.Basic
import Peripherals.Proofs.Text.Utf8
import Peripherals.Text.Blank
import Peripherals.Text.Lowercase
/-!
Lower case and the characters that cannot be seen. Main statement: a character that is blank or NUL is
its own lower case and nothing else's, so that such characters may be left out before or after.
-/

set_option autoImplicit false

namespace Peripherals.Text

def isUnseen (c : Char) : Bool :=
  isBlank c || c.toNat == 0

/-- The code points of unseen characters, and those of none, as spans. -/
def unseenSpans : List (Int × Int) := [
  (0, 0), (9, 13), (0x20, 0x20), (0x85, 0x85), (0xA0, 0xA0), (0x1680, 0x1680), (0x2000, 0x200A),
  (0x2028, 0x2029), (0x202F, 0x202F), (0x205F, 0x205F), (0x3000, 0x3000), (0xD800, 0xDFFF)]

/-- From the first code point to the last there are seen characters only. -/
def areSeen (first last : Int) : Bool :=
  0 ≤ first && last < 0x110000 && unseenSpans.all fun span => last < span.1 || span.2 < first

private theorem isUnseen_eq_false (first last : Int) (seen : areSeen first last = true) {n : Nat}
    (above : first ≤ n) (below : n ≤ last) : isUnseen (Char.ofNat n) = false := by
  simp only [areSeen, unseenSpans, List.all_cons, List.all_nil, Bool.and_eq_true, Bool.or_eq_true,
    decide_eq_true_eq, Bool.and_true] at seen
  have value : (Char.ofNat n).toNat = n := Utf8.toNat_ofNat (by omega)
  simp only [isUnseen, isBlank, value, Bool.or_eq_false_iff, Bool.and_eq_false_iff,
    decide_eq_false_iff_not, beq_eq_false_iff_ne]
  omega

private theorem caseRuns_seen : ∀ r ∈ caseRuns,
    areSeen r.first r.last = true ∧ areSeen (r.first + r.shift) (r.last + r.shift) = true := by
  decide +kernel

/-- A character that is not its own lower case is seen, and so is its lower case. -/
private theorem lowerChar_cases (c : Char) :
    lowerChar c = [c] ∨ isUnseen c = false ∧ ∀ d ∈ lowerChar c, isUnseen d = false := by
  have whole : Char.ofNat c.toNat = c := Char.ofNat_toNat c
  unfold lowerChar
  dsimp only
  split
  · split
    · next upper =>
      simp only [Bool.and_eq_true, decide_eq_true_eq] at upper
      refine .inr ⟨?_, fun d member => ?_⟩
      · rw [← whole]
        exact isUnseen_eq_false 65 90 (by decide) (by omega) (by omega)
      · obtain rfl := List.mem_singleton.mp member
        exact isUnseen_eq_false 97 122 (by decide) (by omega) (by omega)
    · exact .inl rfl
  split
  · next dotted =>
    rw [beq_iff_eq] at dotted
    refine .inr ⟨?_, fun d member => ?_⟩
    · rw [← whole, dotted]
      decide
    · rcases List.mem_pair.mp member with rfl | rfl <;> decide
  split
  · next r found =>
    obtain ⟨ownSeen, lowerSeen⟩ := caseRuns_seen r (List.mem_of_find?_eq_some found)
    have holds := List.find?_some found
    simp only [CaseRun.holds, Bool.and_eq_true, decide_eq_true_eq] at holds
    refine .inr ⟨?_, fun d member => ?_⟩
    · rw [← whole]
      exact isUnseen_eq_false _ _ ownSeen (by omega) (by omega)
    · obtain rfl := List.mem_singleton.mp member
      have positive : 0 ≤ r.first + r.shift := by
        simp only [areSeen, Bool.and_eq_true, decide_eq_true_eq] at lowerSeen
        exact lowerSeen.1.1
      exact isUnseen_eq_false _ _ lowerSeen (by omega) (by omega)
  · exact .inl rfl

private theorem filter_lowerChar (c : Char) :
    (lowerChar c).filter (!isUnseen ·) = if isUnseen c then [] else lowerChar c := by
  rcases lowerChar_cases c with same | ⟨seen, lowerSeen⟩
  · rw [same]
    cases unseen : isUnseen c <;> simp [unseen]
  · rw [seen, List.filter_eq_self.mpr fun d member => by simp [lowerSeen d member]]
    rfl

/-- Unseen characters may be left out before a text is written in lower case, or after. -/
theorem lowercase_filter (s : List Char) :
    lowercase (s.filter (!isUnseen ·)) = (lowercase s).filter (!isUnseen ·) := by
  induction s with
  | nil => rfl
  | cons c s ih =>
    have cons (c : Char) (s : List Char) : lowercase (c :: s) = lowerChar c ++ lowercase s := rfl
    rw [cons, List.filter_append, filter_lowerChar, ← ih]
    cases unseen : isUnseen c <;> simp [unseen, cons]

end Peripherals.Text

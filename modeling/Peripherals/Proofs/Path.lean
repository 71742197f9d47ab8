import Mathlib.Data.List.Basic
import Peripherals.Path
import Peripherals.Proofs.Text
/-!
Paths that are joined from a directory and a name. Main statements: a path below a directory is told
by its first letter there, and one path tells its directory and its name.
-/

set_option autoImplicit false

namespace Peripherals.Path

/-- A path lies below a directory, on an entry with this first letter. -/
def Below (dir : Path) (initial : Char) (p : Path) : Prop :=
  ∃ rest, p.text.toList = dir.text.toList ++ '/' :: initial :: rest

/-- A directory whose entries are set off by a slash. -/
def Solid (dir : Path) : Prop :=
  ∃ front last, dir.text.toList = front ++ [last] ∧ last ≠ '/'

theorem join_text (dir : Path) (name : String) :
    ∃ sep, (dir.join name).text.toList = dir.text.toList ++ sep ++ name.toList := by
  unfold join
  split
  · exact ⟨[], by simp⟩
  · exact ⟨['/'], by simp⟩

theorem Solid.filled {dir : Path} (solid : dir.Solid) : dir.text ≠ "" := by
  obtain ⟨front, last, text, -⟩ := solid
  intro empty
  rw [empty] at text
  simp at text

theorem Solid.last {dir : Path} (solid : dir.Solid) : dir.text.toList.getLast? ≠ some '/' := by
  obtain ⟨front, last, text, other⟩ := solid
  rw [text, List.getLast?_concat]
  simpa using other

theorem Solid.join_text {dir : Path} (solid : dir.Solid) (name : String) :
    (dir.join name).text.toList = dir.text.toList ++ '/' :: name.toList := by
  simp [join, solid.filled, solid.last]

theorem solid_join (dir : Path) (name : String) {front : List Char} {last : Char}
    (text : name.toList = front ++ [last]) (other : last ≠ '/') : (dir.join name).Solid := by
  obtain ⟨sep, joined⟩ := dir.join_text name
  refine ⟨dir.text.toList ++ sep ++ front, last, ?_, other⟩
  rw [joined, text, List.append_assoc, List.append_assoc, List.append_assoc]

theorem Solid.below {dir : Path} (solid : dir.Solid) (name : String) {initial : Char}
    {rest : List Char} (text : name.toList = initial :: rest) :
    dir.Below initial (dir.join name) :=
  ⟨rest, by rw [solid.join_text, text]⟩

theorem Below.join {dir p : Path} {initial : Char} (below : dir.Below initial p) (name : String) :
    dir.Below initial (p.join name) := by
  obtain ⟨rest, text⟩ := below
  obtain ⟨sep, joined⟩ := p.join_text name
  refine ⟨rest ++ sep ++ name.toList, ?_⟩
  rw [joined, text]
  simp

theorem Below.ne {dir p q : Path} {initial initial' : Char} (below : dir.Below initial p)
    (below' : dir.Below initial' q) (differs : initial ≠ initial') : p ≠ q := by
  rintro rfl
  obtain ⟨rest, text⟩ := below
  obtain ⟨rest', text'⟩ := below'
  rw [text] at text'
  have tails := List.append_cancel_left text'
  exact differs (List.cons.inj (List.cons.inj tails).2).1

theorem numbered_text (stem : String) (n : UInt32) :
    (∃ front last, (numbered stem n).toList = front ++ [last] ∧ last ≠ '/') ∧
      (numbered stem n).toList = stem.toList ++ (Text.number n.toNat).toList := by
  have text : (numbered stem n).toList = stem.toList ++ (Text.number n.toNat).toList :=
    String.toList_append
  refine ⟨?_, text⟩
  have filled := Text.number_ne_empty n.toNat
  refine ⟨stem.toList ++ (Text.number n.toNat).toList.dropLast,
    (Text.number n.toNat).toList.getLast filled, ?_, ?_⟩
  · rw [text, List.append_assoc, List.dropLast_append_getLast filled]
  · intro slash
    have digit := Text.isDigit_of_mem_number _ (List.getLast_mem filled)
    rw [slash] at digit
    cases digit

/-! ### By their last names -/

private theorem join_front (dir : Path) : ∃ front : List Char, (front = [] ∨ ∃ f, front = f ++ ['/']) ∧
    ∀ name, (dir.join name).text.toList = front ++ name.toList := by
  by_cases closed : (dir.text.isEmpty || dir.text.toList.getLast? == some '/') = true
  · refine ⟨dir.text.toList, ?_, fun name => by simp [join, closed]⟩
    rcases Bool.or_eq_true_iff.mp closed with empty | slash
    · exact .inl (by simp [String.isEmpty_iff.mp empty])
    · have last := List.getLast?_eq_some_iff.mp (beq_iff_eq.mp slash)
      exact .inr last
  · refine ⟨dir.text.toList ++ ['/'], .inr ⟨_, rfl⟩, fun name => ?_⟩
    simp only [join, if_neg closed, String.toList_append]
    rfl

/-- Before a name without slashes a path is cut in one place only. -/
private theorem front_eq {front front' name name' : List Char}
    (closed : front' = [] ∨ ∃ f, front' = f ++ ['/']) (clean : '/' ∉ name) {t : List Char}
    (longer : front ++ t = front') (rest : name = t ++ name') : t = [] := by
  rcases List.eq_nil_or_concat t with rfl | ⟨t', c, rfl⟩
  · rfl
  · rcases closed with rfl | ⟨f, rfl⟩
    · simp at longer
    · rw [List.concat_eq_append, ← List.append_assoc] at longer
      obtain rfl : c = '/' := (List.cons.inj (List.append_inj' longer rfl).2).1
      exact absurd (by rw [rest]; simp) clean

theorem join_inj {dir dir' : Path} {name name' : String} (clean : '/' ∉ name.toList)
    (clean' : '/' ∉ name'.toList) (same : dir.join name = dir'.join name') :
    name = name' ∧ ∀ other, dir.join other = dir'.join other := by
  obtain ⟨front, closed, text⟩ := dir.join_front
  obtain ⟨front', closed', text'⟩ := dir'.join_front
  have texts : front ++ name.toList = front' ++ name'.toList := by
    rw [← text, ← text', same]
  have cut : front = front' := by
    rcases List.append_eq_append_iff.mp texts with ⟨t, longer, rest⟩ | ⟨t, longer, rest⟩
    · rw [longer, front_eq closed' clean longer.symm rest, List.append_nil]
    · rw [longer, front_eq closed clean' longer.symm rest, List.append_nil]
  subst cut
  refine ⟨String.toList_injective (List.append_cancel_left texts), fun other => ?_⟩
  have ends : (dir.join other).text = (dir'.join other).text :=
    String.toList_injective ((text other).trans (text' other).symm)
  exact congrArg Path.mk ends

/-- A path below a solid directory tells the directory. -/
theorem Solid.join_inj {dir dir' : Path} {name name' : String} (solid : dir.Solid)
    (solid' : dir'.Solid) (clean : '/' ∉ name.toList) (clean' : '/' ∉ name'.toList)
    (same : dir.join name = dir'.join name') : dir = dir' ∧ name = name' := by
  obtain ⟨rfl, all⟩ := Path.join_inj clean clean' same
  have texts := congrArg (fun p : Path => p.text.toList) same
  simp only [solid.join_text, solid'.join_text] at texts
  refine ⟨congrArg Path.mk (String.toList_injective ?_), rfl⟩
  exact (List.append_inj' texts rfl).1

theorem numbered_head {stem : String} {c : Char} (head : stem.toList.head? = some c) (n : UInt32) :
    (numbered stem n).toList.head? = some c := by
  have filled : stem.toList ≠ [] := by
    intro none
    rw [none] at head
    cases head
  rw [(numbered_text stem n).2, List.head?_append_of_ne_nil _ filled, head]

theorem clean_numbered {stem : String} (clean : '/' ∉ stem.toList) (n : UInt32) :
    '/' ∉ (numbered stem n).toList := by
  rw [(numbered_text stem n).2]
  intro slash
  rcases List.mem_append.mp slash with early | late
  · exact clean early
  · have digit := Text.isDigit_of_mem_number _ late
    cases digit

theorem numbered_injective {stem : String} {n n' : UInt32}
    (same : numbered stem n = numbered stem n') : n = n' := by
  have texts := congrArg String.toList same
  rw [(numbered_text stem n).2, (numbered_text stem n').2] at texts
  have numerals := String.toList_injective (List.append_cancel_left texts)
  exact UInt32.toNat_inj.mp (Text.number_injective numerals)

end Peripherals.Path

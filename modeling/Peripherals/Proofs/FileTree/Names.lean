import Mathlib.Data.String.Basic
import Peripherals.FileTree.Basic
import Peripherals.Proofs.Path
/-!
The names in a path. Main statement: a path that is joined from a directory and a name has the names
of both, one after the other.
-/

set_option autoImplicit false

namespace Peripherals.Text

open String

private theorem splitOnAux_of_valid (sep : Char) (l m r : List Char) (acc : List String) :
    splitOnAux (ofList (l ++ m ++ r)) (ofList [sep]) ⟨utf8Len l⟩ ⟨utf8Len l + utf8Len m⟩ 0 acc =
      acc.reverse ++ (List.splitOnPPrepend (· == sep) r m.reverse).map ofList := by
  have first : (0 : Pos.Raw).get (ofList [sep]) = sep := by simpa using get_of_valid [] [sep]
  have second : (0 : Pos.Raw).next (ofList [sep]) = ⟨sep.utf8Size⟩ := by
    simpa using next_of_valid [] sep []
  have ends : Pos.Raw.atEnd (ofList [sep]) ⟨sep.utf8Size⟩ = true := by simp [-ofList_cons]
  induction r generalizing l m acc with
  | nil =>
    have last := extract_of_valid l m []
    have done : Pos.Raw.atEnd (ofList (l ++ m ++ [])) ⟨utf8Len l + utf8Len m⟩ = true := by
      simp [-ofList_append]
    rw [splitOnAux, if_pos done, last]
    simp
  | cons c r ih =>
    have more : ¬ Pos.Raw.atEnd (ofList (l ++ m ++ c :: r)) ⟨utf8Len l + utf8Len m⟩ = true := by
      have size := c.utf8Size_pos
      simp [-ofList_append]
      omega
    have here : Pos.Raw.get (ofList (l ++ m ++ c :: r)) ⟨utf8Len l + utf8Len m⟩ = c := by
      simpa [-ofList_append] using get_of_valid (l ++ m) (c :: r)
    have after : Pos.Raw.next (ofList (l ++ m ++ c :: r)) ⟨utf8Len l + utf8Len m⟩ =
        ⟨utf8Len l + utf8Len m + c.utf8Size⟩ := by
      simpa [-ofList_append] using next_of_valid (l ++ m) c r
    have piece := extract_of_valid l m (c :: r)
    rw [splitOnAux, if_neg more, here, first]
    simp only [second, ends, after, if_true]
    by_cases same : c = sep
    · subst same
      have later := ih (l ++ m ++ [c]) [] (ofList m :: acc)
      have texts : l ++ m ++ [c] ++ [] ++ r = l ++ m ++ c :: r := by simp
      have offset : utf8Len (l ++ m ++ [c]) = utf8Len l + utf8Len m + c.utf8Size := by
        simp [Nat.add_assoc]
      have back : (⟨utf8Len l + utf8Len m + c.utf8Size⟩ : Pos.Raw).unoffsetBy ⟨c.utf8Size⟩ =
          ⟨utf8Len l + utf8Len m⟩ := by simp [Pos.Raw.unoffsetBy]
      rw [texts, offset, utf8Len_nil, Nat.add_zero] at later
      rw [if_pos BEq.rfl, back, piece, later,
        List.splitOnPPrepend_cons_pos (p := (· == c)) BEq.rfl]
      simp
    · have later := ih l (m ++ [c]) acc
      have texts : l ++ (m ++ [c]) ++ r = l ++ m ++ c :: r := by simp
      have offset : utf8Len l + utf8Len (m ++ [c]) = utf8Len l + utf8Len m + c.utf8Size := by
        simp [Nat.add_assoc]
      have still : (⟨utf8Len l + utf8Len m⟩ : Pos.Raw).unoffsetBy 0 = ⟨utf8Len l + utf8Len m⟩ := rfl
      have other : (c == sep) = false := beq_false_of_ne same
      rw [texts, offset] at later
      rw [if_neg (by simpa using same), still, after, later,
        List.splitOnPPrepend_cons_neg (p := (· == sep)) other, List.reverse_append]
      rfl

private theorem splitOn_ofList (sep : Char) (s : List Char) :
    (ofList s).splitOn (ofList [sep]) = (s.splitOn sep).map ofList := by
  have filled : (ofList [sep] == "") = false := by
    simp
  rw [splitOn, filled, if_neg Bool.false_ne_true]
  exact splitOnAux_of_valid sep [] [] s []

end Peripherals.Text

namespace Peripherals.FileTree

/-- The names in a text. Slashes only set them apart. -/
def parts (text : List Char) : List String :=
  ((text.splitOn '/').map String.ofList).filter fun s => !s.isEmpty

private theorem parts_append (a b : List Char) : parts (a ++ '/' :: b) = parts a ++ parts b := by
  rw [parts, List.splitOn_append_cons_self, List.map_append, List.filter_append]
  rfl

theorem namesOf_eq (text : String) : namesOf text =
    parts text.toList ++ if text.toList.getLast? == some '/' then [""] else [] := by
  have cut : text.splitOn "/" = (text.toList.splitOn '/').map String.ofList := by
    have split := Text.splitOn_ofList '/' text.toList
    rwa [String.ofList_toList] at split
  rw [namesOf, cut]
  split
  · rfl
  · exact (List.append_nil _).symm

theorem namesOf_of_last {text : String} (last : text.toList.getLast? ≠ some '/') :
    namesOf text = parts text.toList := by
  rw [namesOf_eq, if_neg (by simpa using last), List.append_nil]

private theorem parts_of_slash {text : List Char} (slash : text.getLast? = some '/') :
    ∃ front, text = front ++ ['/'] ∧ parts front = parts text := by
  obtain ⟨front, rfl⟩ := List.getLast?_eq_some_iff.mp slash
  refine ⟨front, rfl, ?_⟩
  rw [parts_append]
  exact (List.append_nil _).symm

theorem parts_join (dir : Path) (name : String) :
    parts (dir.join name).text.toList = parts dir.text.toList ++ parts name.toList := by
  unfold Path.join
  split
  · next slash =>
    rw [Bool.or_eq_true, beq_iff_eq] at slash
    rcases slash with empty | slash
    · rw [String.isEmpty_iff.mp empty]
      rfl
    · obtain ⟨front, text, same⟩ := parts_of_slash slash
      rw [String.toList_append, ← same, text, List.append_assoc]
      exact parts_append front name.toList
  · have text : (dir.text ++ "/" ++ name).toList = dir.text.toList ++ '/' :: name.toList := by simp
    rw [text]
    exact parts_append _ _

theorem parts_of_clean {name : String} (filled : name ≠ "") (clean : '/' ∉ name.toList) :
    parts name.toList = [name] := by
  rw [parts, List.splitOn_eq_singleton clean]
  simp [filled]

/-- What is joined to a directory comes after its names. -/
theorem namesOf_join (dir : Path) {name : String} (filled : name ≠ "") (clean : '/' ∉ name.toList) :
    namesOf (dir.join name).text = parts dir.text.toList ++ [name] := by
  obtain ⟨sep, text⟩ := dir.join_text name
  have last : (dir.join name).text.toList.getLast? ≠ some '/' := by
    have chars : name.toList ≠ [] := fun none => filled (String.toList_eq_nil_iff.mp none)
    rw [text, List.getLast?_append_of_ne_nil _ chars]
    exact fun slash => clean (List.mem_of_mem_getLast? slash)
  rw [namesOf_of_last last, parts_join, parts_of_clean filled clean]

end Peripherals.FileTree

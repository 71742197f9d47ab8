import Mathlib.Data.List.Infix
import Peripherals.Proofs.Text
import Peripherals.Setting.Variable
/-!
Names of environment variables. Main statements: what a name sets does not depend on its case, and a
name that joins a section and a key sets the key of the section, or something that no name joins.
-/

set_option autoImplicit false

namespace Peripherals

namespace Text

private theorem isBlank_toLower (c : Char) : isBlank c.toLower = isBlank c := by
  unfold Char.toLower
  split
  · next upper =>
    have bounds : 65 ≤ c.toNat ∧ c.toNat ≤ 90 := upper
    generalize eq : (⟨c.val + ('a'.val - 'A'.val), _⟩ : Char) = d
    have moved : d.toNat = c.toNat + 32 := by
      rw [← eq]
      change (c.val.toNat + 32) % 4294967296 = c.val.toNat + 32
      exact Nat.mod_eq_of_lt (Nat.lt_of_le_of_lt (Nat.add_le_add_right bounds.2 32) (by decide))
    have plain : isPlain c = true := by
      simp only [isPlain, Bool.and_eq_true, decide_eq_true_eq]
      omega
    have plain' : isPlain d = true := by
      simp only [isPlain, Bool.and_eq_true, decide_eq_true_eq]
      omega
    rw [isBlank_of_isPlain plain, isBlank_of_isPlain plain']
  · rfl

private theorem trim_map_toLower (s : List Char) : trim (s.map Char.toLower) =
    (trim s).map Char.toLower := by
  have same : isBlank ∘ Char.toLower = isBlank := funext isBlank_toLower
  simp only [trim, dropEndWhile, List.dropWhile_map, same, ← List.map_reverse]

end Text

namespace Setting.Variable

open Peripherals.Text (isBlank trim)

/-! ### In lower case -/

def lowered (name : String) : List Char :=
  name.toList.map Char.toLower

def start : List Char :=
  nameStart.toList.map Char.toLower

private theorem ownName?_eq (name : String) : ownName? name =
    if start.isPrefixOf (trim (lowered name)) then some (trim ((trim (lowered name)).drop start.length))
    else none := by
  rw [lowered, Text.trim_map_toLower]
  rfl

theorem path?_congr {name name' : String} (same : lowered name = lowered name') :
    path? name = path? name' := by
  simp only [path?, ownName?_eq, same]

/-! ### Keys of a name -/

def joint : List Char :=
  ['_', '_']

/-- What may stand on either side of a joint. -/
structure IsPart (s : List Char) : Prop where
  nonempty : s ≠ []
  pointless : '.' ∉ s
  unjointed : ¬ joint <:+: s

private theorem keys_cons {c : Char} {s : List Char} (unjointed : ∀ t, c = '_' → s ≠ '_' :: t)
    (pointless : c ≠ '.')
    (acc : List Char) : keys acc (c :: s) = keys (c :: acc) s :=
  keys.eq_4 acc c s unjointed pointless

private theorem keys_single {s : List Char} (pointless : '.' ∉ s) (unjointed : ¬ joint <:+: s)
    (acc : List Char) :
    keys acc s = [acc.reverse ++ s] := by
  induction s generalizing acc with
  | nil => rw [keys, List.append_nil]
  | cons c s ih =>
    have apart : ∀ t, c = '_' → s ≠ '_' :: t := by
      rintro t rfl rfl
      exact unjointed ⟨[], t, rfl⟩
    have rest : keys (c :: acc) s = [(c :: acc).reverse ++ s] :=
      ih (fun member => pointless (List.mem_cons_of_mem _ member))
        (fun inside => unjointed (inside.trans (List.suffix_cons c s).isInfix)) _
    rw [keys_cons apart (fun same => pointless (same ▸ List.mem_cons_self)), rest]
    simp

private theorem keys_jointed {s : List Char} (pointless : '.' ∉ s) (unjointed : ¬ joint <:+: s)
    (ends : s.getLast? ≠ some '_') (acc rest : List Char) :
    keys acc (s ++ joint ++ rest) = (acc.reverse ++ s) :: keys [] rest := by
  induction s generalizing acc with
  | nil =>
    change keys acc ('_' :: '_' :: rest) = _
    rw [keys, List.append_nil]
  | cons c s ih =>
    have apart : ∀ t, c = '_' → s ++ joint ++ rest ≠ '_' :: t := by
      rintro t rfl same
      cases s with
      | nil => exact ends rfl
      | cons d s =>
        obtain rfl : d = '_' := (List.cons.inj same).1
        exact unjointed ⟨[], s, rfl⟩
    have ends' : s.getLast? ≠ some '_' := by
      cases s with
      | nil => simp
      | cons d s => simpa [List.getLast?_cons_cons] using ends
    have behind : keys (c :: acc) (s ++ joint ++ rest) = ((c :: acc).reverse ++ s) :: keys [] rest :=
      ih (fun member => pointless (List.mem_cons_of_mem _ member))
        (fun inside => unjointed (inside.trans (List.suffix_cons c s).isInfix)) ends' _
    change keys acc (c :: (s ++ joint ++ rest)) = _
    rw [keys_cons apart (fun same => pointless (same ▸ List.mem_cons_self)), behind]
    simp

/-! ### Names with a section and a key -/

def nameFor (sec key : List Char) : List Char :=
  start ++ (sec ++ joint ++ key)

/-- A section and a key with a joint between them, and no blanks around them. -/
structure Joined (sec key : List Char) : Prop where
  left : IsPart sec
  right : IsPart key
  head : sec.head?.any isBlank = false
  last : key.getLast?.any isBlank = false

/-- The name joins a section and a key. -/
def Keyed (name : String) : Prop :=
  ∃ sec key, Joined sec key ∧ lowered name = nameFor sec key

section

variable {name : String} {sec key : List Char}

theorem ownName?_nameFor (joined : Joined sec key) (named : lowered name = nameFor sec key) :
    ownName? name = some (sec ++ joint ++ key) := by
  have head : ∀ c ∈ (sec ++ joint ++ key).head?, isBlank c = false := by
    intro c first
    rw [List.append_assoc, List.head?_append_of_ne_nil _ joined.left.nonempty] at first
    have front := joined.head
    rwa [show sec.head? = some c from first] at front
  have last : ∀ c ∈ (sec ++ joint ++ key).getLast?, isBlank c = false := by
    intro c final
    rw [List.getLast?_append_of_ne_nil _ joined.right.nonempty] at final
    have back := joined.last
    rwa [show key.getLast? = some c from final] at back
  have whole : trim (lowered name) = lowered name := by
    refine Text.trim_eq_self ?_ ?_
    · rw [named]
      intro c first
      obtain rfl : 'a' = c := Option.some.inj first
      rfl
    · rw [named]
      intro c final
      refine last c ?_
      rwa [nameFor, List.getLast?_append_of_ne_nil _ (by simp [joint])] at final
  have inside : start.isPrefixOf (lowered name) = true := by
    rw [List.isPrefixOf_iff_prefix, named]
    exact List.prefix_append _ _
  rw [ownName?_eq, whole, if_pos inside, named, nameFor, List.drop_left, Text.trim_eq_self head last]

private theorem path?_of_own {text : List Char} (own : ownName? name = some text) :
    path? name = if (keys [] text).any (·.isEmpty) then none
      else some ((keys [] text).map String.ofList) := by
  simp [path?, own]

theorem path?_nameFor (joined : Joined sec key) (ends : sec.getLast? ≠ some '_')
    (named : lowered name = nameFor sec key) :
    path? name = some [String.ofList sec, String.ofList key] := by
  have two : keys [] (sec ++ joint ++ key) = [sec, key] := by
    rw [keys_jointed joined.left.pointless joined.left.unjointed ends,
      keys_single joined.right.pointless joined.right.unjointed]
    rfl
  rw [path?_of_own (ownName?_nameFor joined named), two]
  simp [joined.left.nonempty, joined.right.nonempty]

/-- The first joint counts: an underscore in front of it belongs to the key. -/
theorem Keyed.path?_cases (keyed : Keyed name) : path? name = none ∨
    ∃ sec key : String, path? name = some [sec, key] ∧ lowered name = nameFor sec.toList key.toList := by
  obtain ⟨sec, key, joined, named⟩ := keyed
  by_cases ends : sec.getLast? = some '_'
  · obtain ⟨front, rfl⟩ := List.getLast?_eq_some_iff.mp ends
    have moved : front ++ ['_'] ++ joint ++ key = front ++ joint ++ '_' :: key := by simp [joint]
    have own := ownName?_nameFor joined named
    rw [moved] at own
    have ends' : front.getLast? ≠ some '_' := by
      intro again
      obtain ⟨rest, rfl⟩ := List.getLast?_eq_some_iff.mp again
      exact joined.left.unjointed ⟨rest, [], by simp [joint]⟩
    have first : keys [] (front ++ joint ++ '_' :: key) = front :: keys [] ('_' :: key) :=
      keys_jointed (fun member => joined.left.pointless (List.mem_append_left _ member))
        (fun inside => joined.left.unjointed (inside.trans (List.prefix_append _ _).isInfix)) ends' _ _
    by_cases again : ∃ rest, key = '_' :: rest
    · obtain ⟨rest, rfl⟩ := again
      left
      rw [path?_of_own own, first, keys]
      simp
    have second : keys [] ('_' :: key) = ['_' :: key] := by
      refine keys_single (fun member => ?_) (fun inside => ?_) []
      · rcases List.mem_cons.mp member with same | member
        · cases same
        · exact joined.right.pointless member
      · rcases List.infix_cons_iff.mp inside with ⟨rest, here⟩ | behind
        · exact again ⟨rest, (List.cons.inj here).2.symm⟩
        · exact joined.right.unjointed behind
    rw [path?_of_own own, first, second]
    by_cases nothing : front = []
    · left
      simp [nothing]
    · refine .inr ⟨String.ofList front, String.ofList ('_' :: key), by simp [nothing], ?_⟩
      rw [String.toList_ofList, String.toList_ofList, named, nameFor, moved, nameFor]
  · refine .inr ⟨_, _, path?_nameFor joined ends named, ?_⟩
    rw [String.toList_ofList, String.toList_ofList, named]

end

end Setting.Variable

end Peripherals

import Mathlib.Logic.Relation
import Peripherals.Board.Detection
import Peripherals.Proofs.Action
import Peripherals.Proofs.Files.Shelf
import Peripherals.Proofs.Text.Lowercase
import Peripherals.Proofs.Text.Occurrences
import Peripherals.Proofs.Text.Utf8
/-!
Boards told by their model text. Main statement: blanks, NUL characters and the case of letters do not
matter in a model text; what stands in front of the name of a board and behind it does not matter either,
as long as it does not name a board itself; and the device tree is read as the text that it holds.
-/

set_option autoImplicit false

namespace Peripherals.Platform

open Peripherals.Text (isUnseen lowercase occursIn occursIn_iff)

/-! ### Model texts -/

private theorem normalModel_eq (model : String) :
    normalModel model = (lowercase model.toList).filter (!isUnseen ·) := by
  rw [← Text.lowercase_filter, normalModel]
  refine congrArg lowercase (List.filter_congr fun c _ => ?_)
  simp [isUnseen, bne]

private theorem normalModel_append (s t : String) : normalModel
    (s ++ t) = normalModel s ++ normalModel t := by
  simp only [normalModel_eq, String.toList_append, Text.lowercase_append, List.filter_append]

/-- One change of a text that is not to be seen when boards are told: a blank or NUL is put in, or some
part is replaced by another that is the same in lower case. -/
inductive Retouched : List Char → List Char → Prop
  | inserted (pre post : List Char) {c : Char} (unseen : Text.isBlank c = true ∨ c.toNat = 0) :
    Retouched (pre ++ post) (pre ++ c :: post)
  | recased (pre post : List Char) {u v : List Char} (same : lowercase u = lowercase v) :
    Retouched (pre ++ u ++ post) (pre ++ v ++ post)

private theorem Retouched.normal {s t : List Char} (retouched : Retouched s t) :
    (lowercase s).filter (!isUnseen ·) = (lowercase t).filter (!isUnseen ·) := by
  cases retouched with
  | inserted pre post unseen =>
    next c =>
    have dropped : isUnseen c = true := by simpa [isUnseen] using unseen
    simp only [← Text.lowercase_filter, List.filter_append, List.filter_cons, dropped, Bool.not_true,
      Bool.false_eq_true, if_false]
  | recased pre post same => simp only [Text.lowercase_append, same]

private theorem ofModel_congr {s t : String}
    (same : normalModel s = normalModel t) : ofModel s = ofModel t := by
  unfold ofModel
  rw [same]

private theorem ofModel_retouched {s t : String}
    (retouched : Relation.EqvGen Retouched s.toList t.toList) :
    ofModel s = ofModel t := by
  have same {u v : List Char} (retouched : Relation.EqvGen Retouched u v) :
      (lowercase u).filter (!isUnseen ·) = (lowercase v).filter (!isUnseen ·) := by
    induction retouched with
    | rel u v once => exact once.normal
    | refl u => rfl
    | symm u v _ ih => exact ih.symm
    | trans u v w _ _ ih ih' => exact ih.trans ih'
  refine ofModel_congr ?_
  rw [normalModel_eq, normalModel_eq]
  exact same retouched

/-! ### The names of boards -/

/-- The word with which the name of every board begins. -/
def brand : List Char :=
  ['a', 'r', 't', 'i', 'k']

private theorem brand_unbordered : Text.Unbordered brand := by
  decide

/-- What follows in the name of a board, in the order in which boards are looked for. -/
def numbers : List (List Char × Platform) := [
  (['5', '3', '0'], .artik530), (['7', '1', '0'], .artik710), (['1', '0', '2', '0'], .artik1020),
  (['1', '0'], .artik1020), (['0', '5'], .artik05x), (['5', '2', '0'], .artik520), (['5'], .artik520)]

private theorem marks_eq :
    marks.map (fun m => (m.1.toList, m.2)) = numbers.map fun n => (brand ++ n.1, n.2) := by
  decide

def firstBoard (found : List Char → Bool) (boards : List (List Char × Platform)) : Platform :=
  ((boards.find? fun b => found b.1).map (·.2)).getD .generic

private theorem ofModel_eq (model : String) :
    ofModel model = firstBoard (fun n => occursIn (brand ++ n) (normalModel model)) numbers := by
  have found := congrArg (List.find? fun m => occursIn m.1 (normalModel model)) marks_eq
  rw [List.find?_map, List.find?_map] at found
  have board := congrArg (fun m => (m.map Prod.snd).getD Platform.generic) found
  simp only [Option.map_map, Function.comp_def] at board
  rw [firstBoard, ← board, ofModel]
  cases marks.find? fun m => occursIn m.1.toList (normalModel model) <;> rfl

/-- The board with the number that a text begins with. -/
def ofNumber (text : List Char) : Platform :=
  firstBoard (·.isPrefixOf text) numbers

private theorem ofModel_named {model : String} {p t : List Char}
    (normal : normalModel model = p ++ (brand ++ t))
    (before : ¬ brand <:+: p) (behind : ¬ brand <:+: t) : ofModel model = ofNumber t := by
  rw [ofModel_eq, ofNumber, normal]
  refine congrArg (firstBoard · numbers) (funext fun n => Bool.eq_iff_iff.mpr ?_)
  rw [occursIn_iff, List.isPrefixOf_iff_prefix]
  exact brand_unbordered.infix_iff before behind

private theorem ofModel_unnamed {model : String} (unnamed : ¬ brand <:+: normalModel model) :
    ofModel model = .generic := by
  have never : numbers.find? (fun b => occursIn (brand ++ b.1) (normalModel model)) = none := by
    refine List.find?_eq_none.mpr fun b _ found => ?_
    exact unnamed ((List.prefix_append brand b.1).isInfix.trans (occursIn_iff.mp found))
  rw [ofModel_eq, firstBoard, never]
  rfl

private theorem ofModel_between {pre post : String} (before : ¬ brand <:+: normalModel pre)
    (behind : ¬ brand <:+: normalModel post) {name : String} {number : List Char}
    (named : normalModel name = brand ++ number) (digits : 'a' ∉ number) :
    ofModel (pre ++ name ++ post) = ofNumber (number ++ normalModel post) := by
  refine ofModel_named (p := normalModel pre) ?_ before fun found => ?_
  · rw [normalModel_append, normalModel_append, named, List.append_assoc, List.append_assoc]
  · exact behind (Text.infix_behind digits found)

/-! ### The device tree -/

variable {φ F ε : Type} {fs : FileSystem φ F} {procRoot : Path} {s : φ}

private theorem detect_stored {model : String}
    (stored : (fs.readFile (procRoot.join "device-tree/model") s).answer = .ok (Text.bytesOf model)) :
    (detect fs procRoot s : Outcome ε φ Platform).answer = .ok (ofModel model) := by
  have read : (readModel fs (procRoot.join "device-tree/model") s).answer = .ok model := by
    rw [readModel, Action.bind_apply, stored]
    simp [Text.ofBytes?_bytesOf]
  rw [detect, Action.bind_apply]
  simp only [Action.attempt_apply, read]
  rfl

private theorem ofModel_tail (model : String) {tail : List Char}
    (unseen : ∀ c ∈ tail, c = '\n' ∨ c.toNat = 0) :
    ofModel (model ++ String.ofList tail) = ofModel model := by
  have dropped : ∀ c ∈ tail, isUnseen c = true := by
    intro c member
    rcases unseen c member with rfl | zero
    · rfl
    · simp [isUnseen, zero]
  refine ofModel_congr ?_
  rw [normalModel_append, normalModel_eq (String.ofList tail), String.toList_ofList,
    ← Text.lowercase_filter, List.filter_eq_nil_iff.mpr fun c member => by simp [dropped c member]]
  exact List.append_nil _

/-! ### Main statement -/

/-- The names of boards that are no beginning of another board's name, with their boards. -/
def fullNames : List (String × Platform) := [
  ("artik530", .artik530), ("artik710", .artik710), ("artik1020", .artik1020), ("artik10", .artik1020),
  ("artik520", .artik520), ("artik05", .artik05x)]

private theorem ofNumber_full {name : String × Platform} (member : name ∈ fullNames) :
    ∃ number, normalModel name.1 = brand ++ number ∧ 'a' ∉ number ∧ ∀ q, ofNumber (number ++ q) = name.2 := by
  simp only [fullNames, List.mem_cons, List.not_mem_nil, or_false] at member
  rcases member with rfl | rfl | rfl | rfl | rfl | rfl
  · exact ⟨['5', '3', '0'], by decide +kernel, by decide, fun q => rfl⟩
  · exact ⟨['7', '1', '0'], by decide +kernel, by decide, fun q => rfl⟩
  · exact ⟨['1', '0', '2', '0'], by decide +kernel, by decide, fun q => rfl⟩
  · refine ⟨['1', '0'], by decide +kernel, by decide, fun q => ?_⟩
    cases longer : ['2', '0'].isPrefixOf q <;> simp [ofNumber, firstBoard, numbers, longer]
  · exact ⟨['5', '2', '0'], by decide +kernel, by decide, fun q => rfl⟩
  · exact ⟨['0', '5'], by decide +kernel, by decide, fun q => rfl⟩

private theorem ofNumber_five (q : List Char) :
    ofNumber (['5'] ++ q) = if ['3', '0'] <+: q then .artik530 else .artik520 := by
  simp only [← List.isPrefixOf_iff_prefix]
  cases other : ['3', '0'].isPrefixOf q
  · cases longer : ['2', '0'].isPrefixOf q <;> simp [ofNumber, firstBoard, numbers, other, longer]
  · simp [ofNumber, firstBoard, numbers, other]

/-- **A board is told by its name.** Blanks, NUL characters and the case of letters do not matter in a
model text. The name of a board is found between all texts that do not hold the brand themselves, and
what follows the shortest name decides whether it is the beginning of another one. A text without the
brand is of no board that is known. On a device tree the answer is that for the text that it holds,
whatever line ends and NUL characters stand behind it. -/
theorem board_told_by_its_name :
    (∀ s t : String, Relation.EqvGen Retouched s.toList t.toList → ofModel s = ofModel t) ∧
    (∀ pre post : String, ¬ brand <:+: normalModel pre → ¬ brand <:+: normalModel post →
      (∀ name ∈ fullNames, ofModel (pre ++ name.1 ++ post) = name.2) ∧
      ofModel (pre ++ "artik5" ++ post) =
        if ['3', '0'] <+: normalModel post then .artik530 else .artik520) ∧
    (∀ s : String, ¬ brand <:+: normalModel s → ofModel s = .generic) ∧
    ∀ {φ F ε : Type} (fs : FileSystem φ F) (procRoot : Path) (s : φ) (model : String)
      (tail : List Char), (∀ c ∈ tail, c = '\n' ∨ c.toNat = 0) →
      (fs.readFile (procRoot.join "device-tree/model") s).answer =
        .ok (Text.bytesOf (model ++ String.ofList tail)) →
      (detect fs procRoot s : Outcome ε φ Platform).answer = .ok (ofModel model) := by
  refine ⟨fun s t => ofModel_retouched, fun pre post before behind => ⟨fun name member => ?_, ?_⟩,
    fun s => ofModel_unnamed, fun fs procRoot s model tail unseen stored => ?_⟩
  · obtain ⟨number, named, digits, told⟩ := ofNumber_full member
    rw [ofModel_between before behind named digits, told]
  · have named : normalModel "artik5" = brand ++ ['5'] := by decide +kernel
    rw [ofModel_between before behind named (by decide), ofNumber_five]
  · rw [detect_stored stored, ofModel_tail model unseen]

/-- Half a brand in front of the brand, which is written with the sign for kelvins, and a number that
begins like one board's and ends like another's. -/
theorem kelvin_board_told :
    let text := "Arti ARTI\u212A\x0010530"
    let stored := Text.bytesOf (text ++ "\n\x00\x00")
    let shelf : Shelf := { files := (∅ : Assoc _ _).put ⟨"/proc/device-tree/model"⟩ stored }
    (detect Shelf.fileSystem ⟨"/proc"⟩ shelf : Outcome IoError Shelf Platform).answer = .ok .artik1020 ∧
      ofModel "Raspberry Pi 3" = .generic := by
  intro text stored shelf
  obtain ⟨retouched, named, unnamed, detected⟩ := board_told_by_its_name
  have joined : (⟨"/proc"⟩ : Path).join "device-tree/model" = ⟨"/proc/device-tree/model"⟩ := by
    decide +kernel
  have held : (Shelf.fileSystem.readFile ((⟨"/proc"⟩ : Path).join "device-tree/model") shelf).answer =
      .ok stored := by
    rw [joined]
    rfl
  refine ⟨?_, unnamed _ (by decide +kernel)⟩
  rw [detected Shelf.fileSystem ⟨"/proc"⟩ shelf text ['\n', '\x00', '\x00'] (by simp) held]
  have parts : text.toList = "Arti ".toList ++ "ARTI\u212A".toList ++ "\x0010530".toList := by
    decide +kernel
  have kelvin : Retouched text.toList "Arti artik\x0010530".toList :=
    parts ▸ .recased "Arti ".toList "\x0010530".toList (v := "artik".toList) (by decide +kernel)
  have nul : Retouched "Arti artik10530".toList "Arti artik\x0010530".toList :=
    .inserted "Arti artik".toList "10530".toList (.inr rfl)
  rw [retouched _ _ (.trans _ _ _ (.rel _ _ kelvin) (.symm _ _ (.rel _ _ nul)))]
  exact congrArg _ ((named "Arti " "530" (by decide +kernel) (by decide +kernel)).1 ("artik10", .artik1020)
    (by decide))

end Peripherals.Platform

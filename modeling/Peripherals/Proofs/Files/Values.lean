import Mathlib
import Peripherals.Adc.Iio
import Peripherals.Gpio.Sysfs
import Peripherals.Proofs.FileTree.Basic
import Peripherals.Proofs.Text.Numerals
/-!
What a read of an open attribute answers: the value that its content spells by the grammar of its kind,
or why it spells none. Main statements: counts and levels are read so, wherever in the file the last
read has ended.
-/

set_option autoImplicit false

namespace Peripherals

open Text (AllBlank Frames Whole)
open Text.Utf8 (encode)

namespace Attribute

variable {α : Type} {Spells : List Char → α → Prop} {path : Path} {content : List UInt8}

/-! ### Contents -/

private theorem valueOf_of_notText (notText : ∀ text, content ≠ encode text) :
    valueOf path content = .error (.io path IoError.notText) := by
  have undecoded : Text.Utf8.decode? content = none := by
    cases read : Text.Utf8.decode? content with
    | none => rfl
    | some text => exact absurd (Text.Utf8.decode?_eq_some_iff.mp read) (notText text)
  rw [valueOf, undecoded]
  rfl

private theorem valueOf_of_blank {text : List Char} (blank : AllBlank text) :
    valueOf path (encode text) = .error (.shortRead path) := by
  simp only [valueOf, Text.Utf8.decode?_encode, Text.trim_eq_nil_iff.mpr blank]
  rfl

private theorem valueOf_of_frames {text value : List Char} (frames : Frames text value)
    (filled : value ≠ []) :
    valueOf path (encode text) = .ok (String.ofList value) := by
  simp only [valueOf, Text.Utf8.decode?_encode, Text.frames_iff.mp frames]
  rw [if_neg (by simpa using filled)]

private theorem content_cases (content : List UInt8) : (∀ text, content ≠ encode text) ∨
    (∃ text, content = encode text ∧ AllBlank text) ∨
      ∃ text value, content = encode text ∧ Frames text value ∧ value ≠ [] := by
  cases read : Text.Utf8.decode? content with
  | none =>
    left
    rintro text rfl
    rw [Text.Utf8.decode?_encode] at read
    cases read
  | some text =>
    right
    have same := Text.Utf8.decode?_eq_some_iff.mp read
    by_cases blank : AllBlank text
    · exact .inl ⟨text, same, blank⟩
    · exact .inr ⟨text, Text.trim text, same, Text.frames_trim text, mt Text.trim_eq_nil_iff.mp blank⟩

/-! ### Grammars -/

/-- What is answered to a content under a path: the value that stands in it between blanks, or why
there is none. -/
inductive Reading (Spells : List Char → α → Prop) (path : Path) (content : List UInt8) :
    Except Fault α → Prop
  | value {text value : List Char} {a : α} (same : content = encode text) (frames : Frames text value)
    (spelled : Spells value a) : Reading Spells path content (.ok a)
  | blank {text : List Char} (same : content = encode text) (blank : AllBlank text) :
    Reading Spells path content (.error (.shortRead path))
  | notText (notText : ∀ text, content ≠ encode text) :
    Reading Spells path content (.error (.io path IoError.notText))
  | other {text value : List Char} (same : content = encode text) (frames : Frames text value)
    (filled : value ≠ []) (unspelled : ∀ a, ¬ Spells value a) :
    Reading Spells path content (.error (.unreadable path (String.ofList value)))

/-- A reader of values that accepts what a grammar spells, and nothing without a character. -/
structure Parses (Spells : List Char → α → Prop) (path : Path) (parse : String → Except Fault α) :
    Prop where
  ok_iff : ∀ value a, parse (String.ofList value) = .ok a ↔ Spells value a
  rejects : ∀ raw f, parse raw = .error f → f = .unreadable path raw
  filled : ∀ a, ¬ Spells [] a

theorem Reading.status_eq {f : Fault} (reading : Reading Spells path content (.error f)) :
    f.status = .busy := by
  cases reading with
  | blank | notText | other => rfl

theorem Parses.reading {parse : String → Except Fault α} (parses : Parses Spells path parse)
    (content : List UInt8) : Reading Spells path content (valueOf path content >>= parse) := by
  rcases content_cases content with notText | ⟨text, rfl, blank⟩ | ⟨text, value, rfl, frames, filled⟩
  · rw [valueOf_of_notText notText]
    exact .notText notText
  · rw [valueOf_of_blank blank]
    exact .blank rfl blank
  · rw [valueOf_of_frames frames filled]
    change Reading Spells path _ (parse (String.ofList value))
    cases read : parse (String.ofList value) with
    | ok a => exact .value rfl frames ((parses.ok_iff value a).mp read)
    | error f =>
      have unspelled (a : α) : ¬ Spells value a := by
        intro spelled
        rw [(parses.ok_iff value a).mpr spelled] at read
        cases read
      rw [parses.rejects _ f read]
      exact .other rfl frames filled unspelled

/-- A content is read in one way. -/
theorem Parses.reading_iff {parse : String → Except Fault α} (parses : Parses Spells path parse)
    {answer : Except Fault α} :
    Reading Spells path content answer ↔ valueOf path content >>= parse = answer := by
  constructor
  · intro reading
    cases reading with
    | @value text value a same frames spelled =>
      have filled : value ≠ [] := by
        rintro rfl
        exact parses.filled a spelled
      rw [same, valueOf_of_frames frames filled]
      exact (parses.ok_iff value a).mpr spelled
    | blank same blank =>
      rw [same, valueOf_of_blank blank]
      rfl
    | notText notText =>
      rw [valueOf_of_notText notText]
      rfl
    | @other text value same frames filled unspelled =>
      rw [same, valueOf_of_frames frames filled]
      change parse (String.ofList value) = _
      cases read : parse (String.ofList value) with
      | ok a => exact absurd ((parses.ok_iff value a).mp read) (unspelled a)
      | error f => rw [parses.rejects _ f read]
  · rintro rfl
    exact parses.reading content

/-! ### Attributes of a file tree -/

open FileTree (OpenFile fileSystem)

theorem store_file {t : FileTree} {n : Nat} (stands : t.fileAt? path = some n) (value : String) :
    store fileSystem path value t = ⟨.ok (), [], t.setBytes n (Text.bytesOf value)⟩ := by
  simp only [store, Action.mapError, FileTree.writeFile_of_fileAt? stands]
  rfl

theorem openRead_file {t : FileTree} {n : Nat} (stands : t.fileAt? path = some n) :
    openRead fileSystem path t = ⟨.ok ⟨path, .file n 0⟩, [], t⟩ := by
  simp only [openRead, Action.bind_apply, Action.mapError, FileTree.openRead_of_fileAt? stands]
  rfl

theorem openUpdate_file {t : FileTree} {n : Nat} (stands : t.fileAt? path = some n) :
    openUpdate fileSystem path t = ⟨.ok ⟨path, .file n 0⟩, [], t⟩ := by
  simp only [openUpdate, Action.bind_apply, Action.mapError, FileTree.openUpdate_of_fileAt? stands]
  rfl

private theorem read_file (t : FileTree) (path : Path) (n position : Nat) :
    read fileSystem (t, ⟨path, .file n position⟩) =
      ⟨valueOf path (t.bytes n), [], (t, ⟨path, .file n (t.bytes n).length⟩)⟩ := by
  have drained : (OpenFile.file n (0 + ((t.bytes n).drop 0).length)) = .file n (t.bytes n).length := by
    rw [List.drop_zero, Nat.zero_add]
  rw [← drained]
  rfl

theorem parse_file (parse : Path → String → Except Fault α) (t : FileTree) (path : Path)
    (n position : Nat) :
    (do
      let value ← read fileSystem
      Action.ofExcept (parse (← Action.get).2.path value) :
        Action Fault (FileTree × Attribute OpenFile) α) (t, ⟨path, .file n position⟩) =
      ⟨valueOf path (t.bytes n) >>= parse path, [], (t, ⟨path, .file n (t.bytes n).length⟩)⟩ := by
  rw [Action.bind_apply, read_file]
  cases valueOf path (t.bytes n) with
  | ok text => rfl
  | error f => rfl

/-- A value that is written goes over the first bytes, wherever the last access has ended. -/
theorem write_file (t : FileTree) (path : Path) (n position : Nat) (value : String) :
    write fileSystem value (t, ⟨path, .file n position⟩) =
      ⟨.ok (), [], (t.setBytes n (FileTree.overlay (t.bytes n) 0 (Text.bytesOf value)),
        ⟨path, .file n (0 + (Text.bytesOf value).length)⟩)⟩ := rfl

end Attribute

/-! ### Counts and levels -/

/-- The text is a whole number with or without a sign, and it is this number of 32 bits. -/
def Adc.Count (s : List Char) (n : Int32) : Prop :=
  ∃ k : Int, Whole s k ∧ -2 ^ 31 ≤ k ∧ k ≤ 2 ^ 31 - 1 ∧ n.toInt = k

/-- A zero is low, a one is high. -/
inductive Gpio.Level : List Char → Bool → Prop
  | low : Level ['0'] false
  | high : Level ['1'] true

private theorem Adc.Iio.countOf_ok_iff {path : Path} {value : List Char} {n : Int32} :
    countOf path (String.ofList value) = .ok n ↔ Adc.Count value n := by
  have half : ((Nat.pow 2 31 : Nat) : Int) = 2 ^ 31 := rfl
  unfold countOf
  rw [String.toList_ofList]
  constructor
  · intro read
    split at read
    · next k spells =>
      obtain ⟨whole, lower, upper⟩ := Text.signed?_eq_some_iff.mp spells
      rw [half] at lower upper
      obtain rfl := Except.ok.inj read
      exact ⟨k, whole, lower, Int.le_sub_one_of_lt upper, Int32.toInt_ofInt_of_le lower upper⟩
    · cases read
  · rintro ⟨k, whole, lower, upper, rfl⟩
    have spells : Text.signed? (Nat.pow 2 31) value = some n.toInt :=
      Text.signed?_eq_some_iff.mpr ⟨whole, by rwa [half], by rw [half]; exact Int.lt_of_le_sub_one upper⟩
    rw [spells]
    exact congrArg Except.ok (Int32.ofInt_toInt n)

theorem Adc.Iio.countOf_parses (path : Path) : Attribute.Parses Adc.Count path (countOf path) where
  ok_iff _ _ := countOf_ok_iff
  rejects raw f fails := by
    unfold countOf at fails
    split at fails
    · cases fails
    · exact (Except.error.inj fails).symm
  filled n := by
    rintro ⟨k, whole, -⟩
    cases whole with
    | plain digits =>
      obtain ⟨c, t, contra, -⟩ := digits.front
      cases contra

theorem Gpio.Sysfs.levelOf_parses (path : Path) : Attribute.Parses Gpio.Level path (levelOf path) where
  ok_iff value b := by
    unfold levelOf
    constructor
    · intro read
      split at read
      · next low =>
        obtain rfl := Except.ok.inj read
        obtain rfl : value = ['0'] := String.ofList_injective (beq_iff_eq.mp low)
        exact .low
      split at read
      · next high =>
        obtain rfl := Except.ok.inj read
        obtain rfl : value = ['1'] := String.ofList_injective (beq_iff_eq.mp high)
        exact .high
      · cases read
    · intro spelled
      cases spelled with
      | low => rfl
      | high => rfl
  rejects raw f fails := by
    unfold levelOf at fails
    split at fails
    · cases fails
    split at fails
    · cases fails
    · exact (Except.error.inj fails).symm
  filled b := fun none => nomatch none

theorem Adc.count_signedDecimal (n : Int32) : Adc.Count (Text.signedDecimal n.toInt) n :=
  ⟨n.toInt, Text.whole_signedDecimal _, n.le_toInt, Int.le_sub_one_of_lt n.toInt_lt, rfl⟩

end Peripherals

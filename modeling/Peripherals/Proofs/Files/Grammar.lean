import Mathlib
import Peripherals.Proofs.Adc.OpenInputs
import Peripherals.Proofs.Gpio.Requests
/-!
Attributes of inputs and of lines that someone else writes to while they are leased. Main statement: a
read answers by the grammar of its kind from what the attribute holds at that moment.
-/

set_option autoImplicit false

namespace Peripherals

open FileTree (OpenFile fileSystem)
open Text (AllBlank)
open Text.Utf8 (encode)

variable {α β : Type}

private theorem map_eq_map_iff {f : α → β} (injective : ∀ a b, f a = f b → a = b)
    {x y : Except Fault α} :
    x.map f = y.map f ↔ x = y := by
  constructor
  · intro same
    cases x with
    | ok a =>
      cases y with
      | ok b => exact congrArg Except.ok (injective a b (Except.ok.inj same))
      | error f => cases same
    | error f =>
      cases y with
      | ok b => cases same
      | error f' => exact congrArg Except.error (Except.error.inj same)
  · rintro rfl
    rfl

/-- What is done at a desk over files, by its owner and by someone else. -/
abbrev FileTree.happen {K S C A : Type} (perform : K → Action Fault (Desk FileTree S C) A) :
    Occurrence K (FileTree → FileTree) → Action Fault (Desk FileTree S C) (Option A) :=
  Occurrence.perform perform fun change => change

private theorem Adc.reading_numeral (path : Path) (n : Int32) {before after : List Char}
    (blank : AllBlank before) (blank' : AllBlank after) {answer : Except Fault Int32} :
    Attribute.Reading Adc.Count path (encode (before ++ Text.signedDecimal n.toInt ++ after)) answer ↔
      answer = .ok n := by
  have frames := Text.frames_signedDecimal n.toInt blank blank'
  have reads : Attribute.Reading Adc.Count path
      (encode (before ++ Text.signedDecimal n.toInt ++ after)) (.ok n) :=
    .value rfl frames (Adc.count_signedDecimal n)
  constructor
  · intro reading
    have first := (Adc.Iio.countOf_parses path).reading_iff.mp reading
    have second := (Adc.Iio.countOf_parses path).reading_iff.mp reads
    exact first.symm.trans second
  · rintro rfl
    exact reads

/-- An attribute that is a regular file is opened by a request for its input or line. From then on, as
long as the handle is live, and whatever is done at the desk and to the files, a read through it answers
what the content of that moment spells and changes no file: a count of 32 bits with or without a sign,
or a level, between blanks; that there are only blanks; that the content is no text; or the trimmed text
that spells nothing. Every such fault is busy, and a numeral of a count reads back between any blanks. -/
theorem attributes_read_by_grammar :
    (∀ (i : Adc.Iio) (t : FileTree) (counter : Nat) (c : Adc.Config) (n : Nat)
        (before after : List (Occurrence Adc.Command (FileTree → FileTree))),
      let perform := (Adc.Iio.driver fileSystem i).perform
      let d := Action.runAll (FileTree.happen perform) before (Desk.vacant t counter)
      let path := i.channelPath c.pin
      d.device.fileAt? path = some n → d.leases.containsKey c.pin = false →
      ∃ h, (perform (.request c) d).answer = .ok (.granted h) ∧
        let d' := Action.runAll (FileTree.happen perform) after (perform (.request c) d).state
        d'.leases.keyOf? h ≠ none →
        (perform (.value h) d').state.device = d'.device ∧
        ∀ answer, (perform (.value h) d').answer = answer.map .sample ↔
          Attribute.Reading Adc.Count path (d'.device.bytes n) answer) ∧
    (∀ (g : Gpio.Sysfs) (t : FileTree) (counter : Nat)
        (before : List (Occurrence Gpio.Command (FileTree → FileTree))),
      let perform := (Gpio.Sysfs.driver fileSystem g).perform
      let d := Action.runAll (FileTree.happen perform) before (Desk.vacant t counter)
      (∀ (c : Gpio.Config) (files : Gpio.Sysfs.Files), g.Regular c.line d.device files →
        d.leases.containsKey c.line = false →
        ∃ h, (perform (.request c) d).answer = .ok (.granted h) ∧
          Gpio.Sysfs.HasOpen (perform (.request c) d).state h c.line c ((g.lineDir c.line).join "value")
            files.value) ∧
      ∀ (h : Handle) (key : UInt32) (c : Gpio.Config) (path : Path) (n : Nat)
          (after : List (Occurrence Gpio.Command (FileTree → FileTree))),
        Gpio.Sysfs.HasOpen d h key c path n →
        let d' := Action.runAll (FileTree.happen perform) after d
        d'.leases.keyOf? h ≠ none →
        (perform (.level h) d').state.device = d'.device ∧
        ∀ answer, (perform (.level h) d').answer = answer.map .level ↔
          Attribute.Reading Gpio.Level path (d'.device.bytes n) answer) ∧
    (∀ path (n : Int32) before after, AllBlank before → AllBlank after → ∀ answer,
      Attribute.Reading Adc.Count path (encode (before ++ Text.signedDecimal n.toInt ++ after)) answer ↔
        answer = .ok n) ∧
    ∀ path content f, Attribute.Reading Adc.Count path content (.error f) ∨
      Attribute.Reading Gpio.Level path content (.error f) → f.status = .busy := by
  refine ⟨?_, ?_, ?_, ?_⟩
  · intro i t counter c n before after perform d path stands free
    obtain ⟨granted, -⟩ := Adc.Iio.request_file stands free
    have lasting := Adc.Iio.lasting_of_request stands free
    refine ⟨_, granted, ?_⟩
    intro d' live
    have lasting' : d'.Lasting _ c.pin _ := lasting.run (fun k d => Adc.Iio.lasting_perform k) after
    obtain ⟨lease, slot, opened⟩ := lasting'.live live
    obtain ⟨answer, still⟩ := Adc.Iio.perform_value (i := i) slot opened
    refine ⟨still, fun answer' => ?_⟩
    rw [show (perform (.value ⟨d.counter⟩) d').answer = _ from answer,
      map_eq_map_iff (fun _ _ => Adc.Answer.sample.inj)]
    exact (Adc.Iio.countOf_parses path).reading_iff.symm
  · intro g t counter before perform d
    constructor
    · intro c files regular free
      exact ⟨_, (Gpio.Sysfs.request_free_regular regular free).1, Gpio.Sysfs.hasOpen_of_request regular free⟩
    · intro h key c path n after opened d' live
      have sound : d.leases.Sound d.counter :=
        Desk.sound_run (Gpio.Sysfs.driver fileSystem g).perform_eq (fun change => change) t counter before
      obtain ⟨lease, slot, opened⟩ := opened
      have lasting : d'.Lasting h key (Gpio.Sysfs.OpenOn c path n) :=
        (Desk.lasting_of_live sound slot opened).run (fun k d => Gpio.Sysfs.lasting_perform k) after
      obtain ⟨answer, still, -⟩ := Gpio.Sysfs.perform_level (g := g) (lasting.live live)
      refine ⟨still, fun answer' => ?_⟩
      rw [show (perform (.level h) d').answer = _ from answer,
        map_eq_map_iff (fun _ _ => Gpio.Answer.level.inj)]
      exact (Gpio.Sysfs.levelOf_parses path).reading_iff.symm
  · intro path n before after blank blank' answer
    exact Adc.reading_numeral path n blank blank'
  · rintro path content f (reading | reading)
    · exact reading.status_eq
    · exact reading.status_eq

/-- Input 3 is opened on a file that says 7, and read. Then −12 is written between blanks, and it is read.
On line 4, a 2 is no level. -/
theorem count_read_between_blanks :
    let i : Adc.Iio := ⟨⟨""⟩, 0⟩
    let t := Adc.Iio.oneInput (Text.bytesOf "7\n")
    let perform := (Adc.Iio.driver fileSystem i).perform
    let d' := Action.runAll (FileTree.happen perform) [.command (.value ⟨0⟩),
      .outside fun t => t.setBytes 0 (encode (['\t'] ++ Text.signedDecimal (-12) ++ ['\n']))]
      (perform (.request ⟨3, "input"⟩) (Desk.vacant t 0)).state
    let g : Gpio.Sysfs := ⟨⟨""⟩⟩
    let line := (Gpio.Sysfs.driver fileSystem g).perform
    let d := (line (.request (Gpio.Config.input 4))
      (Desk.vacant (Gpio.Sysfs.oneLine [] [] (Text.bytesOf " 2\n")) 0)).state
    (perform (.value ⟨0⟩) d').answer = .ok (.sample (-12)) ∧
      ∃ h, (line (.level h) d).answer =
        .error (.unreadable ((g.lineDir 4).join "value") "2") := by
  intro i t perform d' g line d
  obtain ⟨counts, levels, numerals, -⟩ := attributes_read_by_grammar
  constructor
  · have stands : t.fileAt? (i.channelPath 3) = some 0 := Adc.Iio.oneInput_file _
    obtain ⟨h, granted, reads⟩ := counts i t 0 ⟨3, "input"⟩ 0 [] [.command (.value ⟨0⟩),
      .outside fun t => t.setBytes 0 (encode (['\t'] ++ Text.signedDecimal (-12) ++ ['\n']))] stands rfl
    obtain ⟨first, entered⟩ := Adc.Iio.request_file (d := Desk.vacant t 0) (c := ⟨3, "input"⟩) stands rfl
    obtain rfl : h = ⟨0⟩ := Adc.Answer.granted.inj (Except.ok.inj (granted.symm.trans first))
    have live : d'.leases.keyOf? ⟨0⟩ ≠ none := by
      simp only [d', perform, entered]
      decide +kernel
    obtain ⟨-, answers⟩ := reads live
    refine (answers (.ok (-12))).mpr ?_
    have content : d'.device.bytes 0 = encode (['\t'] ++ Text.signedDecimal (-12) ++ ['\n']) :=
      (FileTree.bytes_setBytes _ 0 0 _).trans (if_pos rfl)
    change Attribute.Reading Adc.Count (i.channelPath 3) (d'.device.bytes 0) _
    rw [content]
    exact (numerals _ (-12) ['\t'] ['\n'] (by simp [AllBlank, Text.isBlank])
      (by simp [AllBlank, Text.isBlank]) _).mpr rfl
  · let t := Gpio.Sysfs.oneLine [] [] (Text.bytesOf " 2\n")
    let c := Gpio.Config.input 4
    have regular : g.Regular 4 t ⟨0, 1, 2⟩ := Gpio.Sysfs.oneLine_regular _ _ _
    obtain ⟨h, granted, opened⟩ := (levels g t 0 []).1 c ⟨0, 1, 2⟩ regular rfl
    have run : Action.runAll (FileTree.happen line) [.command (.request c)] (Desk.vacant t 0) = d :=
      (Occurrence.perform_command _ _).2
    have reads := (levels g t 0 [.command (.request c)]).2 h 4 c ((g.lineDir 4).join "value") 2 []
    rw [run] at reads
    have known : d.leases.keyOf? h = some 4 := opened.keyOf?_eq
    obtain ⟨-, answers⟩ := reads opened (Option.ne_none_iff_exists'.mpr ⟨4, known⟩)
    refine ⟨h, (answers (.error (.unreadable _ "2"))).mpr ?_⟩
    have content : d.device.bytes 2 = Text.bytesOf " 2\n" := by
      have left : d.device = Gpio.Sysfs.prepared c ⟨0, 1, 2⟩ t :=
        congrArg Desk.device (Gpio.Sysfs.request_free_regular (d := Desk.vacant t 0) regular rfl).2
      rw [left, Gpio.Sysfs.prepared_bytes, if_neg (by decide), if_neg (by decide)]
      rfl
    change Attribute.Reading Gpio.Level _ (d.device.bytes 2) _
    rw [content]
    have frames : Text.Frames [' ', '2', '\n'] ['2'] := Text.frames_iff.mpr (by decide)
    refine .other rfl frames (by decide) fun level spelled => ?_
    cases spelled

end Peripherals

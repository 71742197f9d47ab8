import Mathlib
import Peripherals.Adc.Rtos
import Peripherals.Proofs.Adc.Samples
import Peripherals.Proofs.Desk.Outside
import Peripherals.Proofs.FileTree.Basic
/-!
Files of recorded samples in the place of a converter, rewritten by someone else while a desk reads
them through any number of handles. Main statement: a read answers from what the file holds at that
moment, and from no more than its first eight samples.
-/

set_option autoImplicit false

namespace Peripherals

/-! ### Rewriting a file -/

namespace FileTree

/-- A change of a tree by someone else that leaves the file at a path where it is, whatever is written
into it. -/
structure Rewrite (path : Path) where
  change : FileTree → FileTree
  stays : ∀ t n, t.fileAt? path = some n → (change t).fileAt? path = some n

def Rewrite.ofBytes (path : Path) (bytes : List UInt8) : Rewrite path where
  change t := match t.fileAt? path with
    | some n => t.setBytes n bytes
    | none => t
  stays t n stands := by
    rw [stands]
    change (t.setBytes n bytes).fileAt? path = some n
    rw [fileAt?_setBytes, stands]

end FileTree

namespace Adc

namespace Rtos

open FileTree (OpenFile fileSystem)

/-! ### What a read answers -/

def window : Nat := Sample.size * samplesPerRead

/-- What a read for a channel answers when the file holds `content`: the first sample of the channel
among those that are complete in the window, or that there is none. -/
inductive Reading (path : Path) (pin : UInt32) (content : List UInt8) : Except Fault Int32 → Prop
  | short (few : content.length < Sample.size) : Reading path pin content (.error (.shortRead path))
  | found {before after : List Sample} {s : Sample} {rest : List UInt8}
    (cut : content.take window = Sample.encodeAll (before ++ s :: after) ++ rest)
    (short : rest.length < Sample.size) (here : s.channel.toNat = pin.toNat)
    (first : ∀ other ∈ before, other.channel.toNat ≠ pin.toNat) :
    Reading path pin content (.ok s.value)
  | missing {samples : List Sample} {rest : List UInt8} (enough : Sample.size ≤ content.length)
    (cut : content.take window = Sample.encodeAll samples ++ rest) (short : rest.length < Sample.size)
    (absent : ∀ s ∈ samples, s.channel.toNat ≠ pin.toNat) :
    Reading path pin content (.error (.noSample path pin.toNat))

/-- The answer of a read, computed from the bytes that it fetched. -/
def verdict (path : Path) (pin : UInt32) (bytes : List UInt8) : Except Fault Int32 :=
  if bytes.length < Sample.size then .error (.shortRead path)
  else match valueAt? pin (Sample.decodeAll bytes) with
    | some n => .ok n
    | none => .error (.noSample path pin.toNat)

private theorem length_window_iff {content : List UInt8} :
    (content.take window).length < Sample.size ↔ content.length < Sample.size := by
  simp only [List.length_take, window, Sample.size, samplesPerRead]
  omega

private theorem valueAt?_first {pin : UInt32} {before : List Sample} {s : Sample} (after : List Sample)
    (here : s.channel.toNat = pin.toNat) (first : ∀ other ∈ before, other.channel.toNat ≠ pin.toNat) :
    valueAt? pin (before ++ s :: after) = some s.value := by
  have passed : before.find? (fun s => s.channel.toNat == pin.toNat) = none :=
    List.find?_eq_none.mpr fun other member => by simpa using first other member
  rw [valueAt?, List.find?_append, passed, List.find?_cons_of_pos (by simpa using here)]
  rfl

private theorem valueAt?_eq_none_iff {pin : UInt32} {samples : List Sample} :
    valueAt? pin samples = none ↔ ∀ s ∈ samples, s.channel.toNat ≠ pin.toNat := by
  simp [valueAt?]

private theorem valueAt?_eq_some {pin : UInt32} {samples : List Sample} {n : Int32}
    (value : valueAt? pin samples = some n) : ∃ before s after, samples = before ++ s :: after ∧
      s.value = n ∧ s.channel.toNat = pin.toNat ∧ ∀ other ∈ before, other.channel.toNat ≠ pin.toNat := by
  obtain ⟨s, found, same⟩ := Option.map_eq_some_iff.mp value
  obtain ⟨here, before, after, split, first⟩ := List.find?_eq_some_iff_append.mp found
  exact ⟨before, s, after, split, same, by simpa using here, fun other member => by simpa using first other member⟩

private theorem reading_verdict (path : Path) (pin : UInt32) (content : List UInt8) :
    Reading path pin content (verdict path pin (content.take window)) := by
  unfold verdict
  split
  · next few => exact .short (length_window_iff.mp few)
  · next enough =>
    obtain ⟨rest, cut, short⟩ := Sample.exists_rest (content.take window)
    split
    · next value =>
      obtain ⟨before, s, after, split, rfl, here, first⟩ := valueAt?_eq_some value
      rw [split] at cut
      exact .found cut short here first
    · next none =>
      exact .missing (Nat.le_of_not_lt fun few => enough (length_window_iff.mpr few)) cut short
        (valueAt?_eq_none_iff.mp none)

private theorem Reading.eq_verdict {path : Path} {pin : UInt32} {content : List UInt8}
    {answer : Except Fault Int32} (reading : Reading path pin content answer) :
    answer = verdict path pin (content.take window) := by
  cases reading with
  | short few => rw [verdict, if_pos (length_window_iff.mpr few)]
  | @found before after s rest cut short here first =>
    have enough : ¬ (Sample.encodeAll (before ++ s :: after) ++ rest).length < Sample.size := by
      simp only [List.length_append, Sample.length_encodeAll, List.length_cons, Sample.size]
      omega
    rw [cut, verdict, if_neg enough, Sample.decodeAll_encodeAll _ short, valueAt?_first after here first]
  | missing enough cut short absent =>
    have enough : ¬ (content.take window).length < Sample.size :=
      fun few => Nat.not_lt.mpr enough (length_window_iff.mp few)
    rw [verdict, if_neg enough, cut, Sample.decodeAll_encodeAll _ short, valueAt?_eq_none_iff.mpr absent]

private theorem reading_iff {path : Path} {pin : UInt32} {content : List UInt8}
    {answer : Except Fault Int32} :
    Reading path pin content answer ↔ answer = verdict path pin (content.take window) :=
  ⟨Reading.eq_verdict, fun same => same ▸ reading_verdict path pin content⟩

private theorem reading_window_iff {path : Path} {pin : UInt32} {content : List UInt8}
    {answer : Except Fault Int32} :
    Reading path pin (content.take window) answer ↔ Reading path pin content answer := by
  rw [reading_iff, reading_iff, List.take_take, Nat.min_self]

private theorem Reading.status_eq {path : Path} {pin : UInt32} {content : List UInt8} {f : Fault}
    (reading : Reading path pin content (.error f)) : f.status = .busy := by
  cases reading with
  | short | missing => rfl

/-! ### Calls to the device -/

section Calls

variable {φ F : Type} (fs : FileSystem φ F) (r : Rtos)

/-- The refusal of a channel that no sample can name. -/
def tooWide (pin : UInt32) : Fault :=
  .invalidArgument ("ADC channel " ++ Text.number pin.toNat ++ " does not fit a sample record")

private theorem claim_wide {c : Config} (wide : 255 < c.pin.toNat) (s : φ) :
    (driver fs r).claim c s = ⟨.error (tooWide c.pin), [], s⟩ := by
  simp only [driver, wide, if_true]
  rfl

def Narrow : KeyProperty φ Config (Channel F) := fun pin _ l =>
  l.isSome = true → pin.toNat ≤ 255

private theorem tends_narrow : (driver fs r).device.Tends Narrow fun _ => True where
  claim_others _ _ _ _ _ _ _ was := was
  claim_error _ _ _ _ _ _ none := nomatch none
  claim_ok c s channel _ _ claimed := by
    rintro -
    refine Nat.le_of_not_lt fun wide => ?_
    change ((driver fs r).claim c s).answer = _ at claimed
    rw [claim_wide fs r wide] at claimed
    cases claimed
  windUp_others _ _ _ _ _ _ was := was
  windUp_error _ _ _ narrow _ := narrow
  windUp_ok _ _ _ _ none := nomatch none

def happen {E : Type} (change : E → φ → φ) :
    Occurrence Command E → Action Fault (Desk φ Config (Channel F)) (Option Answer) :=
  Occurrence.perform (driver fs r).perform change

private theorem course (k : Command) (d : Desk φ Config (Channel F)) :
    Course (driver fs r).device .granted .done d ((driver fs r).errand k)
      ((driver fs r).perform k d).answer ((driver fs r).perform k d).state := by
  rw [(driver fs r).perform_eq]
  exact ((driver fs r).errand k).course (driver fs r).device .granted .done d

private theorem run_then_change {E : Type} (change : E → φ → φ) (k : Command) (e : E)
    (d : Desk φ Config (Channel F)) :
    Action.runAll (happen fs r change) [.command k, .outside e] d =
      { ((driver fs r).perform k d).state with
        device := change e ((driver fs r).perform k d).state.device } := by
  have performed : (happen fs r change (.command k) d).state = ((driver fs r).perform k d).state :=
    (Occurrence.perform_command k d).2
  rw [← performed]
  rfl

private theorem narrow_run {E : Type} (change : E → φ → φ) (s : φ) (counter : Nat)
    (os : List (Occurrence Command E)) :
    (Action.runAll (happen fs r change) os (Desk.vacant s counter)).Tended Narrow := by
  refine Occurrence.tended_run (fun k d t => ?_) (fun _ _ _ _ was => ?_) (fun key => ?_) counter os
  · refine Desk.Tended.step (course fs r k d) (tends_narrow fs r) (fun _ _ => trivial) (fun h work use => ?_) t
    exact fun key p narrow _ => ⟨narrow, fun _ _ _ was => was, fun _ _ => trivial⟩
  · exact was
  · exact fun none => nomatch none

private theorem request_wide {d : Desk φ Config (Channel F)} (t : d.Tended Narrow) {c : Config}
    (wide : 255 < c.pin.toNat) :
    (driver fs r).perform (.request c) d = ⟨.error (tooWide c.pin), [], d⟩ := by
  have free : d.leases.containsKey ((driver fs r).device.trade.key c) = false := by
    refine Bool.eq_false_iff.mpr fun busy => ?_
    obtain ⟨h, lease, live⟩ := t.sound.containsKey_iff.mp busy
    exact absurd (t.live live rfl) (Nat.not_le.mpr wide)
  have refused : (driver fs r).device.request c d = ⟨.error (tooWide c.pin), [], d⟩ := by
    have declines : (driver fs r).device.claim c (Desk.deviceLens.get d) =
        ⟨.error (tooWide c.pin), [], d.device⟩ := claim_wide fs r wide d.device
    simp only [Device.request, Action.bind_apply, Action.get_apply, free, Bool.false_eq_true, if_false,
      Action.zoom_apply, declines]
    rfl
  change (Answer.granted <$> (driver fs r).device.request c) d = _
  rw [Action.map_apply, refused]
  rfl

end Calls

/-! ### A file in the place of the device -/

variable {r : Rtos}

private theorem claim_file {t : FileTree} {n : Nat} (stands : t.fileAt? r.devicePath = some n)
    {c : Config}
    (fits : c.pin.toNat ≤ 255) : ((driver fileSystem r).claim c t).answer = .ok ⟨c.pin, r.devicePath, .file n 0⟩ ∧
      ((driver fileSystem r).claim c t).state = t := by
  simp only [driver, if_neg (Nat.not_lt.mpr fits), Action.bind_apply, Action.mapError,
    FileTree.openRead_of_fileAt? stands]
  exact ⟨rfl, rfl⟩

theorem pick_apply {φ F : Type} (path : Path) (pin : UInt32) (bytes : List UInt8) (p : φ × Channel F) :
    (pick path pin bytes p).answer = verdict path pin bytes ∧ (pick path pin bytes p).state = p := by
  unfold pick verdict
  split
  · exact ⟨rfl, rfl⟩
  · simp only [Action.bind_apply, Action.note_apply]
    cases valueAt? pin (Sample.decodeAll bytes) <;> exact ⟨rfl, rfl⟩

private theorem read_file (untriggered : r.trigger = none) (t : FileTree) (pin : UInt32) (path : Path)
    (n position : Nat) :
    ((driver fileSystem r).read (t, ⟨pin, path, .file n position⟩)).answer =
        verdict path pin ((t.bytes n).take window) ∧
      ∃ position', ((driver fileSystem r).read (t, ⟨pin, path, .file n position⟩)).state =
        (t, ⟨pin, path, .file n position'⟩) := by
  let bytes := (t.bytes n).take window
  have rewound : (driver fileSystem r).read (t, ⟨pin, path, .file n position⟩) =
      pick path pin bytes (t, ⟨pin, path, .file n (0 + bytes.length)⟩) := by
    simp only [driver, untriggered]
    rfl
  obtain ⟨answer, state⟩ := pick_apply path pin bytes
    (t, (⟨pin, path, .file n (0 + bytes.length)⟩ : Channel OpenFile))
  rw [rewound, answer, state]
  exact ⟨rfl, _, rfl⟩

/-- The file stands at the path of the device, and a leased channel has it open. -/
def Plays (r : Rtos) (n : Nat) : KeyProperty FileTree Config (Channel OpenFile) := fun pin t l =>
  t.fileAt? r.devicePath = some n ∧
    ∀ lease, l = some lease → ∃ position, lease.channel = ⟨pin, r.devicePath, .file n position⟩

private theorem tends_plays (n : Nat) : (driver fileSystem r).device.Tends
    (Plays r n) fun _ => True where
  claim_others c t _ plays pin l _ was := by
    change Plays r n pin ((driver fileSystem r).claim c t).state l
    by_cases fits : c.pin.toNat ≤ 255
    · rw [(claim_file plays.1 fits).2]
      exact was
    · rw [claim_wide fileSystem r (Nat.lt_of_not_le fits)]
      exact was
  claim_error c t f _ plays _ := by
    change Plays r n c.pin ((driver fileSystem r).claim c t).state none
    by_cases fits : c.pin.toNat ≤ 255
    · rw [(claim_file plays.1 fits).2]
      exact plays
    · rw [claim_wide fileSystem r (Nat.lt_of_not_le fits)]
      exact plays
  claim_ok c t channel _ plays claimed := by
    change ((driver fileSystem r).claim c t).answer = _ at claimed
    change Plays r n c.pin ((driver fileSystem r).claim c t).state _
    by_cases fits : c.pin.toNat ≤ 255
    · obtain ⟨answer, state⟩ := claim_file plays.1 fits
      rw [answer] at claimed
      obtain rfl := Except.ok.inj claimed
      rw [state]
      exact ⟨plays.1, fun lease same => ⟨0, (congrArg Lease.channel (Option.some.inj same)).symm⟩⟩
    · rw [claim_wide fileSystem r (Nat.lt_of_not_le fits)] at claimed
      cases claimed
  windUp_others _ _ _ _ _ _ was := was
  windUp_error _ _ _ plays _ := plays
  windUp_ok _ _ plays _ := ⟨plays.1, fun _ none => nomatch none⟩

private theorem value_apply (untriggered : r.trigger = none) {n : Nat} {pin : UInt32} {t : FileTree}
    {lease : Lease Config (Channel OpenFile)} (plays : Plays r n pin t (some lease)) :
    let x := Action.zoom Lease.channelLens (driver fileSystem r).read (t, lease)
    x.answer = verdict r.devicePath pin ((t.bytes n).take window) ∧ x.state.1 = t ∧
      Plays r n pin t (some x.state.2) := by
  obtain ⟨position, channel⟩ := plays.2 lease rfl
  obtain ⟨settings, _⟩ := lease
  cases channel
  obtain ⟨answer, position', state⟩ := read_file untriggered t pin r.devicePath n position
  intro x
  have left : x.state = (t, ⟨settings, ⟨pin, r.devicePath, .file n position'⟩⟩) := by
    change Lease.channelLens.set ((driver fileSystem r).read (t, _)).state _ = _
    rw [state]
    rfl
  rw [left]
  refine ⟨answer, rfl, plays.1, fun lease same => ⟨position', ?_⟩⟩
  exact (congrArg Lease.channel (Option.some.inj same)).symm

private theorem plays_run (untriggered : r.trigger = none) {t : FileTree} {n : Nat}
    (stands : t.fileAt? r.devicePath = some n) (counter : Nat)
    (os : List (Occurrence Command (FileTree.Rewrite r.devicePath))) :
    (Action.runAll (happen fileSystem r FileTree.Rewrite.change) os (Desk.vacant t counter)).Tended
      (Plays r n) := by
  refine Occurrence.tended_run (fun k d t => ?_) (fun e pin s l plays => ?_) (fun pin => ?_) counter os
  · refine Desk.Tended.step (course fileSystem r k d) (tends_plays n) (fun _ _ => trivial)
      (fun h work use => ?_) t
    cases k with
    | value h =>
      cases use
      refine Keeps.map (Q := fun _ _ => True) ?_ _
      rintro pin ⟨t, lease⟩ plays _
      obtain ⟨-, still, after⟩ := value_apply untriggered plays
      rw [still]
      exact ⟨after, fun _ _ _ was => was, fun _ _ => trivial⟩
    | request c | release h | config h => cases use
  · exact ⟨e.stays s n plays.1, plays.2⟩
  · exact ⟨stands, fun _ none => nomatch none⟩

private theorem perform_value (untriggered : r.trigger = none) {n : Nat}
    {d : Desk FileTree Config (Channel OpenFile)} (t : d.Tended (Plays r n)) {h : Handle} {pin : UInt32}
    (live : d.leases.keyOf? h = some pin) :
    ((driver fileSystem r).perform (.value h) d).answer =
        (verdict r.devicePath pin ((d.device.bytes n).take window)).map .sample ∧
      ((driver fileSystem r).perform (.value h) d).state.device = d.device := by
  obtain ⟨lease, slot⟩ := HandleTable.keyOf?_eq_some_iff.mp live
  obtain ⟨answer, still, -⟩ := value_apply untriggered (t.live slot)
  have course := course fileSystem r (.value h) d
  generalize ((driver fileSystem r).perform (.value h) d).answer = reply at course ⊢
  generalize ((driver fileSystem r).perform (.value h) d).state = after at course ⊢
  obtain ⟨rfl, rfl⟩ := course.of_used slot
  rw [Action.map_apply]
  exact ⟨congrArg (Except.map Answer.sample) answer, still⟩

private theorem perform_request {n : Nat} {d : Desk FileTree Config (Channel OpenFile)}
    (t : d.Tended (Plays r n))
    {c : Config} (fits : c.pin.toNat ≤ 255) (free : d.leases.containsKey c.pin = false) :
    ∃ h, ((driver fileSystem r).perform (.request c) d).answer = .ok (.granted h) ∧
      ((driver fileSystem r).perform (.request c) d).state.leases.keyOf? h = some c.pin ∧
      ((driver fileSystem r).perform (.request c) d).state.device = d.device := by
  obtain ⟨answer, state⟩ := claim_file (t.holds c.pin).1 fits
  obtain ⟨granted, entered⟩ := ((driver fileSystem r).device.request_free (s := c) free).2 _ answer
  change ∃ h, ((Answer.granted <$> (driver fileSystem r).device.request c) d).answer = _ ∧
    ((Answer.granted <$> (driver fileSystem r).device.request c) d).state.leases.keyOf? h = _ ∧
    ((Answer.granted <$> (driver fileSystem r).device.request c) d).state.device = _
  rw [Action.map_apply, granted, entered]
  refine ⟨⟨d.counter⟩, rfl, ?_, state⟩
  exact HandleTable.keyOf?_eq_some_iff.mpr
    ⟨_, (HandleTable.slots_entered _ _ _ _).trans (if_pos rfl)⟩

/-- Samples are read back from their bytes, and any bytes are those of their samples and less than one
more. From a file of samples in the place of a converter without a trigger, after any run of commands
and of changes that leave the file in its place, a read answers from the content of that moment only:
the first sample of its channel among the complete ones of the first eight, or a fault that shows as
busy. A channel that no sample can name is refused without touching the device. -/
theorem read_answers_from_content :
    ((∀ samples rest, rest.length < Sample.size →
        Sample.decodeAll (Sample.encodeAll samples ++ rest) = samples) ∧
      ∀ bytes, (Sample.decodeAll bytes).length = bytes.length / Sample.size ∧
        Sample.encodeAll (Sample.decodeAll bytes) =
          bytes.take (Sample.size * (bytes.length / Sample.size))) ∧
    (∀ (r : Rtos) (t : FileTree) (n counter : Nat)
        (os : List (Occurrence Command (FileTree.Rewrite r.devicePath))),
      r.trigger = none → t.fileAt? r.devicePath = some n →
      let d := Action.runAll (happen fileSystem r FileTree.Rewrite.change) os (Desk.vacant t counter)
      let perform := (driver fileSystem r).perform
      (∀ c : Config, c.pin.toNat ≤ 255 → d.leases.containsKey c.pin = false →
        ∃ h, (perform (.request c) d).answer = .ok (.granted h) ∧
          (perform (.request c) d).state.leases.keyOf? h = some c.pin ∧
          (perform (.request c) d).state.device = d.device) ∧
      ∀ h pin, d.leases.keyOf? h = some pin →
        ∃ answer, Reading r.devicePath pin (d.device.bytes n) answer ∧
          (perform (.value h) d).answer = answer.map .sample ∧
          (perform (.value h) d).state.device = d.device) ∧
    (∀ path pin content,
      (∃! answer, Reading path pin content answer) ∧
      (∀ answer, Reading path pin (content.take window) answer ↔ Reading path pin content answer) ∧
      ∀ f, Reading path pin content (.error f) → f.status = .busy) ∧
    ∀ {φ F E : Type} (fs : FileSystem φ F) (r : Rtos) (change : E → φ → φ) (s : φ) (counter : Nat)
        (os : List (Occurrence Command E)) (c : Config), 255 < c.pin.toNat →
      let d := Action.runAll (happen fs r change) os (Desk.vacant s counter)
      (driver fs r).perform (.request c) d = ⟨.error (tooWide c.pin), [], d⟩ := by
  refine ⟨⟨fun samples _ => Sample.decodeAll_encodeAll samples, fun bytes =>
    ⟨Sample.length_decodeAll bytes, Sample.encodeAll_decodeAll bytes⟩⟩, ?_, ?_, ?_⟩
  · intro r t n counter os untriggered stands d perform
    have tended := plays_run untriggered stands counter os
    refine ⟨fun c fits free => perform_request tended fits free, fun h pin live => ?_⟩
    obtain ⟨answer, still⟩ := perform_value untriggered tended live
    exact ⟨_, reading_verdict r.devicePath pin (d.device.bytes n), answer, still⟩
  · intro path pin content
    refine ⟨⟨_, reading_verdict path pin content, fun _ => Reading.eq_verdict⟩, fun _ => reading_window_iff, ?_⟩
    exact fun _ => Reading.status_eq
  · intro φ F E fs r change s counter os c wide
    exact request_wide fs r (narrow_run fs r change s counter os) wide

/-- Channel 3 is opened on a file that says −2 for it. The file is changed to say −7 for it, and then
9, before it is read: the read answers −7. Channel 256 is refused. -/
theorem reads_changed_file :
    let r : Rtos := ⟨⟨""⟩, 0, none⟩
    let t : FileTree := ⟨⟨[(["adc0"], .file 0)]⟩, ⟨[(0, Sample.encodeAll [⟨3, -2⟩])]⟩, 1⟩
    let change := FileTree.Rewrite.ofBytes r.devicePath (Sample.encodeAll [⟨5, 1⟩, ⟨3, -7⟩, ⟨3, 9⟩])
    let run := Action.runAll (happen fileSystem r FileTree.Rewrite.change)
    let perform := (driver fileSystem r).perform
    (∃ h, (perform (.value h) (run [.command (.request ⟨3, "input"⟩), .outside change]
      (Desk.vacant t 0))).answer = .ok (.sample (-7))) ∧
    (perform (.request ⟨256, "far"⟩) (Desk.vacant t 0)).answer = .error (tooWide 256) := by
  intro r t change run perform
  have stands : t.fileAt? r.devicePath = some 0 := by cbv
  obtain ⟨-, files, -, wide⟩ := read_answers_from_content
  obtain ⟨grants, -⟩ := files r t 0 0 [] rfl stands
  obtain ⟨h, -, live, still⟩ := grants ⟨3, "input"⟩ (by decide) rfl
  refine ⟨⟨h, ?_⟩, ?_⟩
  · obtain ⟨-, reads⟩ := files r t 0 0 [.command (.request ⟨3, "input"⟩), .outside change] rfl stands
    obtain ⟨answer, reading, told, -⟩ := reads h 3 (by rw [run_then_change]; exact live)
    have content : (run [.command (.request ⟨3, "input"⟩), .outside change] (Desk.vacant t 0)).device.bytes 0 =
        Sample.encodeAll [⟨5, 1⟩, ⟨3, -7⟩, ⟨3, 9⟩] := by
      have same : (perform (.request ⟨3, "input"⟩) (Desk.vacant t 0)).state.device = t := still
      have changed : change.change t = t.setBytes 0 (Sample.encodeAll [⟨5, 1⟩, ⟨3, -7⟩, ⟨3, 9⟩]) := by
        change (match t.fileAt? r.devicePath with
          | some n => t.setBytes n _
          | none => t) = _
        rw [stands]
      simp only [run, perform] at same ⊢
      rw [run_then_change, same, changed]
      rfl
    change Reading _ _ (FileTree.bytes (Desk.device (run _ _)) 0) _ at reading
    rw [content] at reading
    refine told.trans ?_
    rw [reading.eq_verdict]
    rfl
  · have refused := wide fileSystem r (fun e : FileTree.Rewrite r.devicePath => e.change) t 0 []
      ⟨256, "far"⟩ (by decide)
    exact congrArg Outcome.answer refused

end Rtos

end Adc

end Peripherals

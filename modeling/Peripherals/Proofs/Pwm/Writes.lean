import Peripherals.Proofs.Pwm.Orderly
import Peripherals.Proofs.Pwm.Use
/-!
What the driver of channels writes to a channel whose attributes are regular files. Main statements: a
claim of another channel does nothing to it, and its own claim gives it the signal of the
configuration in writes that are in order, wherever they fail.
-/

set_option autoImplicit false

namespace Peripherals.Pwm

open Peripherals.Action (Leads)

variable {φ F α : Type}

/-- The attributes are those of an output with this signal. -/
structure Shows (files : Part → List UInt8) (signal : Signal) : Prop where
  enable : Spells (files .enable) (Sysfs.switchText signal.running)
  period : files .period = Text.bytesOf (Text.number signal.config.period.toNat)
  duty : files .duty = Text.bytesOf (Text.number signal.config.duty.toNat)
  polarity : files .polarity = Text.bytesOf signal.config.polarity.name

private theorem Sysfs.switchText_plain (on : Bool) :
    ∀ c ∈ (Sysfs.switchText on).toList, Text.isPlain c = true := by
  have plain : (Sysfs.switchText on).toList.all Text.isPlain = true := by
    cases on <;> decide
  exact List.all_eq_true.mp plain

namespace Sysfs

variable {fs : FileSystem φ F} {s : Sysfs} {pin : UInt32} {content : φ → Part → List UInt8}

/-- The channel has a signal that it can have, and its period was the last to be written. -/
structure Follows (s : Sysfs) (pin : UInt32) (content : φ → Part → List UInt8) (q : φ × Trace φ)
    (signal : Signal) : Prop where
  orderly : s.Orderly pin content q
  shows : Shows (content q.1) signal
  last : s.lastPeriod pin q.2 = Text.bytesOf (Text.number signal.config.period.toNat)
  fits : signal.config.duty ≤ signal.config.period

theorem Follows.idle {q q' : φ × Trace φ} {signal : Signal} (follows : Follows s pin content q signal)
    (idle : s.Idle pin content q q') : Follows s pin content q' signal where
  orderly := idle.orderly follows.orderly
  shows := by
    rw [idle.content_eq]
    exact follows.shows
  last := idle.period_eq.trans follows.last
  fits := follows.fits

private theorem claim_leads_of {fs : FileSystem φ F} {c : Config} {P Q : φ → Prop}
    (hpresent : Leads P (fs.isPresent (s.channelDir c.pin) : Action Fault φ Bool) (fun _ => P) P)
    (hout : Leads P (exportChannel fs s c.pin) (fun _ => P) P)
    (hback : Leads P (unexportChannel fs s c.pin) (fun _ => P) P)
    (hconfigure : Leads P (configure fs s c) (fun _ => Q) P) :
    Leads P (claim fs s c) (fun channel q => channel.dir = s.channelDir c.pin ∧ Q q) P := by
  rw [claim_eq]
  refine (Exporting.claim_leads _ hpresent hout (Exporting.undo_leads hback _) hconfigure).weaken
    (fun _ h => h) (fun channel q claimed => ?_) fun _ h => h
  obtain ⟨exported, _, rfl, done⟩ := claimed
  exact ⟨rfl, done⟩

namespace Regular

variable (regular : Regular fs s pin content)

/-! ### Steps that do nothing to the channel -/

include regular in
private theorem isPresent_idles (path : Path) :
    s.Idles pin content (fs.traced.isPresent path : Action Fault (φ × Trace φ) Bool) := by
  refine .of_still fun q => ?_
  have state : (fs.traced.isPresent path q : Outcome Fault (φ × Trace φ) Bool).state =
      ((fs.locate path q.1).state, q.2) := by
    simp only [FileSystem.isPresent, Action.bind_apply, Action.attempt_apply]
    cases (fs.traced.locate path q).answer <;> rfl
  rw [state]
  exact ⟨regular.located path q.1, rfl⟩

include regular in
private theorem load_idles (path : Path) : s.Idles pin content (Attribute.load fs.traced path) := by
  refine .of_still fun q => ?_
  have keeps : Leads (Untouched content q) (Attribute.load fs.traced path)
      (fun _ => Untouched content q) (Untouched content q) :=
    Attribute.load_keeps path (fun q' kept => ⟨(regular.opened path q'.1).trans kept.1, kept.2⟩)
      (fun p kept => ⟨(regular.rewound (p.1.1, p.2)).trans kept.1, kept.2⟩)
      (fun p kept => ⟨(regular.drained (p.1.1, p.2)).trans kept.1, kept.2⟩)
  exact keeps.keeps ⟨rfl, rfl⟩

include regular in
theorem store_idles {path : Path} (elsewhere : s.Elsewhere pin path) (value : String) :
    s.Idles pin content (Attribute.store fs.traced path value) := by
  intro q
  exact Idle.write (regular.elsewhere path _ q.1 elsewhere)
    (fun part at_part => absurd at_part (elsewhere.ne part))
    (fun at_polarity => absurd at_polarity (elsewhere.ne .polarity))

include regular in
private theorem exportChannel_idles (key : UInt32) :
    s.Idles pin content (exportChannel fs.traced s key) :=
  (regular.store_idles (.inl (.inl rfl)) _).bind fun _ => .of_still fun _ => ⟨rfl, rfl⟩

include regular in
private theorem unexportChannel_idles (key : UInt32) :
    s.Idles pin content (unexportChannel fs.traced s key) :=
  regular.store_idles (.inl (.inr rfl)) _

include regular in
private theorem standsStill_idles (dir : Path) : s.Idles pin content (standsStill fs.traced dir) := by
  refine .of_leads fun start => ?_
  refine ((regular.load_idles _).idle start).attempt.bind fun result => ?_
  cases result with
  | ok value => exact .pure fun _ idle => idle
  | error e => exact .pure fun _ idle => idle

include regular in
private theorem configure_idles {c : Config} (other : c.pin ≠ pin) :
    s.Idles pin content (configure fs.traced s c) := by
  have store (part : Part) (value : String) :
      s.Idles pin content (Attribute.store fs.traced (s.partPath c.pin part) value) :=
    regular.store_idles (.inr ⟨c.pin, part, other, rfl⟩) value
  have signal := (store .duty "0").bind fun _ =>
    (store .period (Text.number c.period.toNat)).bind fun _ =>
      (store .duty (Text.number c.duty.toNat)).bind fun _ => store .polarity c.polarity.name
  refine (regular.standsStill_idles (s.channelDir c.pin)).bind fun still => ?_
  cases still with
  | true => exact signal
  | false => exact (store .enable "0").bind fun _ => signal

/-! ### Writes to the channel -/

include regular in
/-- A write that fails does nothing to the channel; one that is done stores its value. -/
theorem store_own {part : Part} {value : String} {q : φ × Trace φ} (orderly : s.Orderly pin content q)
    (timely : Timely s pin content q value part) :
    (∀ f, (Attribute.store fs.traced (s.partPath pin part) value q).answer = .error f →
      s.Idle pin content q (Attribute.store fs.traced (s.partPath pin part) value q).state) ∧
    ((Attribute.store fs.traced (s.partPath pin part) value q).answer = .ok () →
      Stored s pin content part value q
        (Attribute.store fs.traced (s.partPath pin part) value q).state) := by
  have answer_eq : (Attribute.store fs.traced (s.partPath pin part) value q).answer =
      (fs.writeFile (s.partPath pin part) (Text.bytesOf value) q.1).answer.mapError
        (Fault.ofIo (s.partPath pin part)) := rfl
  have state_eq : (Attribute.store fs.traced (s.partPath pin part) value q).state =
      ((fs.writeFile (s.partPath pin part) (Text.bytesOf value) q.1).state,
        q.2 ++ [⟨s.partPath pin part, Text.bytesOf value,
          failure? (fs.writeFile (s.partPath pin part) (Text.bytesOf value) q.1).answer, q.1,
          (fs.writeFile (s.partPath pin part) (Text.bytesOf value) q.1).state⟩]) := rfl
  rw [answer_eq, state_eq]
  cases written : (fs.writeFile (s.partPath pin part) (Text.bytesOf value) q.1).answer with
  | error e =>
    refine ⟨fun f _ => ?_, fun done => nomatch done⟩
    exact Idle.write (regular.failed part _ q.1 e written)
      (fun _ _ done => nomatch done) timely.still
  | ok u =>
    refine ⟨(fun f failed => nomatch failed), fun _ => ?_⟩
    exact orderly.store timely (regular.stored part (Text.bytesOf value) q.1 written)

include regular in
private theorem store_leads {part : Part} {value : String} {P Q : φ × Trace φ → Prop}
    (ready : ∀ q, P q → s.Orderly pin content q ∧ Timely s pin content q value part)
    (stores : ∀ q q', P q → Stored s pin content part value q q' → Q q') :
    Leads P (Attribute.store fs.traced (s.partPath pin part) value) (fun _ => Q)
      (s.Orderly pin content) := by
  intro q before
  obtain ⟨orderly, timely⟩ := ready q before
  obtain ⟨failed, done⟩ := regular.store_own orderly timely
  cases answer : (Attribute.store fs.traced (s.partPath pin part) value q).answer with
  | error f => exact (failed f answer).orderly orderly
  | ok u => exact stores q _ before (done answer)

/-! ### Claims and closings -/

include regular in
private theorem standsStill_leads : Leads (s.Orderly pin content)
    (standsStill fs.traced (s.channelDir pin))
    (fun still q => s.Orderly pin content q ∧ (still = true → Still content q.1))
    (s.Orderly pin content) := by
  have seen : Leads (s.Orderly pin content)
      (Attribute.load fs.traced (s.partPath pin .enable))
      (fun value q => s.Orderly pin content q ∧ Spells (content q.1 .enable) value)
      (s.Orderly pin content) := by
    intro q orderly
    have idle := regular.load_idles (s.partPath pin .enable) q
    have plain := (fs.traced_seenAs.load (s.partPath pin .enable)) q
    cases loaded : (Attribute.load fs.traced (s.partPath pin .enable) q).answer with
    | error f => exact idle.orderly orderly
    | ok value =>
      rw [loaded] at plain
      obtain ⟨bytes, read, spells⟩ := Attribute.load_ok (congrArg Outcome.answer plain)
      refine ⟨idle.orderly orderly, ?_⟩
      rw [idle.content_eq, ← regular.read .enable q.1 bytes read]
      exact spells
  refine seen.attempt.bind fun result => ?_
  cases result with
  | error e => exact .pure fun q orderly => ⟨orderly, fun still => nomatch still⟩
  | ok value =>
    refine .pure fun q told => ⟨told.1, fun still => ?_⟩
    rw [Still, ← (beq_iff_eq.mp still : value = "0")]
    exact told.2

/-- All was written in order, and the channel is off. -/
def Off (s : Sysfs) (pin : UInt32) (content : φ → Part → List UInt8) (q : φ × Trace φ) : Prop :=
  s.Orderly pin content q ∧ Still content q.1

/-- The channel is off and its pulse is this long. -/
def Pulsed (s : Sysfs) (pin : UInt32) (content : φ → Part → List UInt8) (duty : Nat)
    (q : φ × Trace φ) : Prop :=
  Off s pin content q ∧ content q.1 .duty = Text.bytesOf (Text.number duty)

/-- The channel is off, its pulse is this long, and its period is set and was the last to be written. -/
def Primed (s : Sysfs) (pin : UInt32) (content : φ → Part → List UInt8) (period : UInt32)
    (duty : Nat) (q : φ × Trace φ) : Prop :=
  Pulsed s pin content duty q ∧ content q.1 .period = Text.bytesOf (Text.number period.toNat) ∧
    s.lastPeriod pin q.2 = Text.bytesOf (Text.number period.toNat)

include regular in
private theorem off_leads : Leads (s.Orderly pin content)
    (Attribute.store fs.traced (s.partPath pin .enable) "0") (fun _ => Off s pin content)
    (s.Orderly pin content) := by
  refine regular.store_leads (fun q orderly => ⟨orderly, trivial⟩) fun q q' _ stored => ?_
  refine ⟨stored.orderly, ?_⟩
  rw [Still, stored.here]
  exact spells_bytesOf (switchText_plain false)

include regular in
private theorem cut_leads : Leads (Off s pin content)
    (Attribute.store fs.traced (s.partPath pin .duty) "0") (fun _ => Pulsed s pin content 0)
    (s.Orderly pin content) := by
  refine regular.store_leads (fun q before => ?_) fun q q' before stored => ?_
  · obtain ⟨orderly, _⟩ := before
    obtain ⟨period, last⟩ := orderly.period
    exact ⟨orderly, 0, period, Text.number_zero.symm, Nat.zero_le period, last⟩
  · refine ⟨⟨stored.orderly, stored.spells (by decide) before.2⟩, ?_⟩
    rw [stored.here, Text.number_zero]

include regular in
private theorem period_leads (period : UInt32) : Leads (Pulsed s pin content 0)
    (Attribute.store fs.traced (s.partPath pin .period) (Text.number period.toNat))
    (fun _ => Primed s pin content period 0) (s.Orderly pin content) := by
  refine regular.store_leads (fun q before => ?_) fun q q' before stored => ?_
  · exact ⟨before.1.1, period.toNat, rfl, fun _ => ⟨0, before.2, Nat.zero_le _⟩⟩
  · have off : Off s pin content q' := ⟨stored.orderly, stored.spells (by decide) before.1.2⟩
    have duty := (stored.other (by decide)).trans before.2
    exact ⟨⟨off, duty⟩, stored.here, stored.period_eq.trans (if_pos rfl)⟩

include regular in
private theorem duty_leads {period duty : UInt32} (fits : duty ≤ period) : Leads
    (Primed s pin content period 0)
    (Attribute.store fs.traced (s.partPath pin .duty) (Text.number duty.toNat))
    (fun _ => Primed s pin content period duty.toNat) (s.Orderly pin content) := by
  refine regular.store_leads (fun q before => ?_) fun q q' before stored => ?_
  · obtain ⟨⟨⟨orderly, _⟩, _⟩, _, last⟩ := before
    exact ⟨orderly, duty.toNat, period.toNat, rfl, UInt32.le_iff_toNat_le.mp fits, last⟩
  · obtain ⟨⟨⟨_, still⟩, _⟩, at_period, last⟩ := before
    have off : Off s pin content q' := ⟨stored.orderly, stored.spells (by decide) still⟩
    exact ⟨⟨off, stored.here⟩, (stored.other (by decide)).trans at_period,
      (stored.last (by decide)).trans last⟩

include regular in
private theorem polarity_leads {c : Config} (fits : c.duty ≤ c.period) :
    Leads (Primed s pin content c.period c.duty.toNat)
      (Attribute.store fs.traced (s.partPath pin .polarity) c.polarity.name)
      (fun _ q => Follows s pin content q ⟨c, false⟩) (s.Orderly pin content) := by
  refine regular.store_leads (fun q before => before.1.1) fun q q' before stored => ?_
  obtain ⟨⟨⟨_, still⟩, duty⟩, period, last⟩ := before
  exact
    { orderly := stored.orderly
      shows :=
        { enable := stored.spells (by decide) still
          period := (stored.other (by decide)).trans period
          duty := (stored.other (by decide)).trans duty
          polarity := stored.here }
      last := (stored.last (by decide)).trans last
      fits := fits }

include regular in
private theorem configure_leads {c : Config} (own : c.pin = pin) (fits : c.duty ≤ c.period) :
    Leads (s.Orderly pin content) (configure fs.traced s c)
      (fun _ q => Follows s pin content q ⟨c, false⟩) (s.Orderly pin content) := by
  subst own
  have signal := regular.cut_leads.bind fun _ => (regular.period_leads c.period).bind fun _ =>
    (regular.duty_leads fits).bind fun _ => regular.polarity_leads fits
  refine regular.standsStill_leads.bind fun still => ?_
  cases still with
  | true => exact signal.weaken (fun q told => ⟨told.1, told.2 rfl⟩) (fun _ _ h => h) fun _ h => h
  | false =>
    have stopped := regular.off_leads.bind fun _ => signal
    exact stopped.weaken (fun q told => told.1) (fun _ _ h => h) fun _ h => h

include regular in
theorem claim_leads {c : Config} (own : c.pin = pin) (fits : c.duty ≤ c.period) :
    Leads (s.Orderly pin content) (claim fs.traced s c)
      (fun channel q => channel.dir = s.channelDir c.pin ∧ Follows s pin content q ⟨c, false⟩)
      (s.Orderly pin content) := by
  have kept {ε β : Type} {x : Action ε (φ × Trace φ) β} (h : s.Idles pin content x) :
      Leads (s.Orderly pin content) x (fun _ => s.Orderly pin content) (s.Orderly pin content) :=
    h.leads fun _ _ idle orderly => idle.orderly orderly
  exact claim_leads_of (kept (regular.isPresent_idles _)) (kept (regular.exportChannel_idles _))
    (kept (regular.unexportChannel_idles _)) (regular.configure_leads own fits)

include regular in
theorem claim_other {c : Config} (other : c.pin ≠ pin) (start : φ × Trace φ) :
    Leads (s.Idle pin content start) (claim fs.traced s c)
      (fun channel q => channel.dir = s.channelDir c.pin ∧ s.Idle pin content start q)
      (s.Idle pin content start) :=
  claim_leads_of ((regular.isPresent_idles _).idle start) ((regular.exportChannel_idles _).idle start)
    ((regular.unexportChannel_idles _).idle start) ((regular.configure_idles other).idle start)

include regular in
theorem close_idle (q : φ × Trace φ) (channel : Channel) :
    s.Idle pin content q (close fs.traced s (q, channel)).state.1 ∧
      (close fs.traced s (q, channel)).state.2.pin = channel.pin ∧
      (close fs.traced s (q, channel)).state.2.dir = channel.dir := by
  have backs (c : Channel) : Leads (s.Idle pin content q) (unexportChannel fs.traced s c.pin)
      (fun _ => s.Idle pin content q) (s.Idle pin content q) :=
    (regular.unexportChannel_idles c.pin).idle q
  have start : s.Idle pin content q q ∧ channel.pin = channel.pin ∧ channel.dir = channel.dir :=
    ⟨.refl q, rfl, rfl⟩
  have closes : Leads
      (fun p => s.Idle pin content q p.1 ∧ p.2.pin = channel.pin ∧ p.2.dir = channel.dir)
      (close fs.traced s)
      (fun _ p => s.Idle pin content q p.1 ∧ p.2.pin = channel.pin ∧ p.2.dir = channel.dir)
      (fun p => s.Idle pin content q p.1 ∧ p.2.pin = channel.pin ∧ p.2.dir = channel.dir) := by
    rw [close_eq]
    refine Exporting.close_leads (P := s.Idle pin content q)
      (R := fun c => c.pin = channel.pin ∧ c.dir = channel.dir) _ backs fun c same => ?_
    exact same
  exact closes.keeps (s := (q, channel)) start

end Regular

/-! ### Verbs -/

theorem Follows.timely {q : φ × Trace φ} {signal : Signal} (follows : Follows s pin content q signal)
    {verb : Verb} (fits : verb.Fits signal) :
    Timely s pin content q (verbValue verb) (verbPart verb) := by
  cases verb with
  | setRunning on => trivial
  | setPeriod period =>
    exact ⟨period.toNat, rfl, fun _ => ⟨_, follows.shows.duty, UInt32.le_iff_toNat_le.mp fits⟩⟩
  | setDuty duty => exact ⟨_, _, rfl, UInt32.le_iff_toNat_le.mp fits, follows.last⟩
  | setPolarity polarity =>
    have off := follows.shows.enable
    rw [show signal.running = false from fits] at off
    exact off

/-- After a call that was done, the channel has the signal with the verb's change. -/
theorem Follows.stored {q q' : φ × Trace φ} {signal : Signal} (follows : Follows s pin content q signal)
    {verb : Verb} (fits : verb.Fits signal)
    (stored : Stored s pin content (verbPart verb) (verbValue verb) q q') :
    Follows s pin content q' (verb.note signal) := by
  obtain ⟨_, ⟨enable, period, duty, polarity⟩, last, within⟩ := follows
  cases verb with
  | setRunning on =>
    change Stored s pin content .enable (switchText on) q q' at stored
    have now : Spells (content q'.1 .enable) (switchText on) := by
      rw [stored.here]
      exact spells_bytesOf (switchText_plain on)
    have shows : Shows (content q'.1) (Verb.note (.setRunning on) signal) :=
      ⟨now, (stored.other (by decide)).trans period, (stored.other (by decide)).trans duty,
        (stored.other (by decide)).trans polarity⟩
    exact ⟨stored.orderly, shows, (stored.last (by decide)).trans last, within⟩
  | setPeriod length =>
    change Stored s pin content .period (Text.number length.toNat) q q' at stored
    have shows : Shows (content q'.1) (Verb.note (.setPeriod length) signal) :=
      ⟨stored.spells (by decide) enable, stored.here, (stored.other (by decide)).trans duty,
        (stored.other (by decide)).trans polarity⟩
    exact ⟨stored.orderly, shows, stored.period_eq.trans (if_pos rfl), fits⟩
  | setDuty pulse =>
    change Stored s pin content .duty (Text.number pulse.toNat) q q' at stored
    have shows : Shows (content q'.1) (Verb.note (.setDuty pulse) signal) :=
      ⟨stored.spells (by decide) enable, (stored.other (by decide)).trans period, stored.here,
        (stored.other (by decide)).trans polarity⟩
    exact ⟨stored.orderly, shows, (stored.last (by decide)).trans last, fits⟩
  | setPolarity sense =>
    change Stored s pin content .polarity sense.name q q' at stored
    have shows : Shows (content q'.1) (Verb.note (.setPolarity sense) signal) :=
      ⟨stored.spells (by decide) enable, (stored.other (by decide)).trans period,
        (stored.other (by decide)).trans duty, stored.here⟩
    exact ⟨stored.orderly, shows, (stored.last (by decide)).trans last, within⟩

end Sysfs

end Peripherals.Pwm

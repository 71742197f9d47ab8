import Peripherals.Proofs.Pwm.Writes
/-!
The attributes of channels beside the record of the desk. Main statement: where the attributes of a
channel are regular files, they follow the record after every run, and every write on the way is in
order, whichever writes fail.
-/

set_option autoImplicit false

namespace Peripherals.Pwm.Sysfs

open Peripherals.Action (Mirrors)

variable {φ F : Type} {fs : FileSystem φ F} {s : Sysfs} {pin : UInt32}
  {content : φ → Part → List UInt8}

/-- All is in order, and if the key is the channel's, its attributes follow the record of its lease. -/
def Kept (s : Sysfs) (pin : UInt32) (content : φ → Part → List UInt8) :
    KeyProperty (φ × Trace φ) Signal Channel
  | key, q, some lease => s.Orderly pin content q ∧ lease.channel.dir = s.channelDir key ∧
    lease.settings.config.pin = key ∧ (key = pin → Follows s pin content q lease.settings)
  | _, q, none => s.Orderly pin content q

namespace Kept

variable {key : UInt32} {q q' : φ × Trace φ} {l : Option (Lease Signal Channel)}

private theorem orderly (kept : Kept s pin content key q l) : s.Orderly pin content q := by
  cases l with
  | none => exact kept
  | some lease => exact kept.1

private theorem idle (kept : Kept s pin content key q l) (idle : s.Idle pin content q q') :
    Kept s pin content key q' l := by
  cases l with
  | none => exact idle.orderly kept
  | some lease =>
    obtain ⟨orderly, dir, at_key, follows⟩ := kept
    exact ⟨idle.orderly orderly, dir, at_key, fun own => (follows own).idle idle⟩

private theorem other (kept : Kept s pin content key q l) (differs : key ≠ pin)
    (orderly : s.Orderly pin content q') : Kept s pin content key q' l := by
  cases l with
  | none => exact orderly
  | some lease =>
    obtain ⟨_, dir, at_key, _⟩ := kept
    exact ⟨orderly, dir, at_key, fun own => absurd own differs⟩

end Kept

private theorem note_pin (verb : Verb) (signal : Signal) :
    (verb.note signal).config.pin = signal.config.pin := by
  cases verb <;> rfl

/-- Every call keeps the attributes beside the record. -/
private theorem Regular.tends (regular : Regular fs s pin content) :
    (driver fs.traced s).Tends (Kept s pin content) where
  claim_others c q fits bare key l differs kept := by
    by_cases own : c.pin = pin
    · subst own
      have claims := regular.claim_leads rfl fits
      have orderly := (claims.weaken (fun _ h => h) (fun _ _ claimed => claimed.2.orderly)
        fun _ h => h).keeps bare
      exact kept.other differs orderly
    · have claims := (regular.claim_other own q).weaken (fun _ h => h) (fun _ _ claimed => claimed.2)
        fun _ h => h
      exact kept.idle (claims.keeps (.refl q))
  claim_error c q f fits bare failed := by
    by_cases own : c.pin = pin
    · exact (regular.claim_leads own fits).of_error bare failed
    · exact ((regular.claim_other own q).of_error (.refl q) failed).orderly bare
  claim_ok c q channel fits bare opened := by
    by_cases own : c.pin = pin
    · obtain ⟨dir, follows⟩ := (regular.claim_leads own fits).of_ok bare opened
      exact ⟨follows.orderly, dir, rfl, fun _ => follows⟩
    · obtain ⟨dir, idle⟩ := (regular.claim_other own q).of_ok (.refl q) opened
      exact ⟨idle.orderly bare, dir, rfl, fun same => absurd same own⟩
  turn verb key p kept fits := by
    obtain ⟨q, lease⟩ := p
    obtain ⟨orderly, dir, at_key, follows⟩ := kept
    have called := calls_apply fs.traced verb q dir
    rw [((driver fs.traced s).turn_apply verb (q, lease)).2, called]
    by_cases own : key = pin
    · subst own
      obtain ⟨failed, done⟩ := regular.store_own orderly ((follows rfl).timely fits)
      cases answer : (Attribute.store fs.traced (s.partPath key (verbPart verb)) (verbValue verb)
          q).answer with
      | error f =>
        have idle := failed f answer
        exact ⟨⟨idle.orderly orderly, dir, at_key, fun _ => (follows rfl).idle idle⟩,
          fun other l _ was => was.idle idle⟩
      | ok u =>
        have after := (follows rfl).stored fits (done answer)
        exact ⟨⟨after.orderly, dir, (note_pin verb _).trans at_key, fun _ => after⟩,
          fun other l differs was => was.other differs after.orderly⟩
    · have idle := regular.store_idles (.inr ⟨key, verbPart verb, own, rfl⟩) (verbValue verb) q
      refine ⟨⟨idle.orderly orderly, dir, ?_, fun same => absurd same own⟩,
        fun other l _ was => was.idle idle⟩
      split
      · exact (note_pin verb _).trans at_key
      · exact at_key
  close_others key q lease _ _ other l _ was := was.idle (regular.close_idle q lease.channel).1
  close_error key q lease f kept _ _ := by
    obtain ⟨idle, _, dir⟩ := regular.close_idle q lease.channel
    obtain ⟨orderly, at_dir, at_key, follows⟩ := kept.idle idle
    exact ⟨orderly, dir.trans at_dir, at_key, follows⟩
  close_ok key q lease kept _ _ := (regular.close_idle q lease.channel).1.orderly kept.orderly

private theorem Regular.dismisses (regular : Regular fs s pin content) :
    (driver fs.traced s).device.Dismisses (Kept s pin content) := by
  intro h key q lease kept
  rw [Device.dismiss_state]
  obtain ⟨stopped, others, _⟩ := regular.tends.keeps_halt key (q, lease) kept trivial
  have idle := (regular.close_idle ((driver fs.traced s).halt (q, lease)).state.1
    ((driver fs.traced s).halt (q, lease)).state.2.channel).1
  exact ⟨idle.orderly stopped.orderly, fun other l differs was => (others other l differs was).idle idle⟩

private theorem Regular.still_of_windUp (regular : Regular fs s pin content) {q : φ × Trace φ}
    {lease : Lease Signal Channel} (kept : Kept s pin content pin q (some lease))
    (closed : ((driver fs.traced s).device.windUp (q, lease)).answer = .ok ()) :
    Still content ((driver fs.traced s).device.windUp (q, lease)).state.1.1 := by
  obtain ⟨stopped, _, rests⟩ := regular.tends.keeps_halt pin (q, lease) kept trivial
  cases halted : ((driver fs.traced s).halt (q, lease)).answer with
  | error f =>
    obtain ⟨failed, _⟩ := ((driver fs.traced s).device.windUp_apply (q, lease)).1 f halted
    rw [failed] at closed
    cases closed
  | ok u =>
    obtain ⟨_, state⟩ := ((driver fs.traced s).device.windUp_apply (q, lease)).2 halted
    have closes : ((driver fs.traced s).device.windUp (q, lease)).state.1 =
        (close fs.traced s (((driver fs.traced s).halt (q, lease)).state.1,
          ((driver fs.traced s).halt (q, lease)).state.2.channel)).state.1 := by
      rw [state]
      rfl
    have off := (stopped.2.2.2 rfl).shows.enable
    rw [show _ = false from rests u halted] at off
    rw [Still, closes, (regular.close_idle _ _).1.content_eq]
    exact off

private theorem still_of_release (regular : Regular fs s pin content)
    {desk desk' : Desk (φ × Trace φ) Signal Channel} {e : Errand (φ × Trace φ) Signal Channel Answer}
    {answer : Except Fault Answer} (tended : desk.Tended (Kept s pin content))
    (course : Course (driver fs.traced s).device .granted .done desk e answer desk') {h : Handle}
    {lease : Lease Signal Channel} (slot : desk.leases.slots.get? h = some (pin, lease))
    (release : e = .release h) (done : answer = .ok .done) : Still content desk'.device.1 := by
  subst release
  rcases course.of_release slot with ⟨f, _, failed, _⟩ | ⟨closed, _, rfl⟩
  · rw [failed] at done
    cases done
  · exact regular.still_of_windUp (tended.live slot) closed

/-- Where the attributes of a channel are regular files, whatever stands in them at first and whichever
writes fail, after every run of commands the attributes of the live channel are as the desk shows it:
it reads as switched on just if it runs, and the period, the pulse and the polarity are spelled as in
the record. From the time a request cut the pulse to nothing, the pulse is within the period last
written at every write, the polarity is only written while the channel reads as switched off, and after
a release that was done it does so too. The writes are seen through a trace, which changes nothing
else. -/
theorem attributes_follow (regular : Regular fs s pin content) (t : φ) (counter : Nat)
    (ks : List Command) :
    let plain := driver fs s
    let d := driver fs.traced s
    let desk := Action.runAll d.perform ks (Desk.vacant (t, []) counter)
    s.Orderly pin content desk.device ∧
      (∀ h lease, desk.leases.get? h = some lease → lease.settings.config.pin = pin →
        (d.perform (.config h) desk).answer = .ok (.config lease.settings.config) ∧
          (d.perform (.isEnabled h) desk).answer = .ok (.enabled lease.settings.running) ∧
          Shows (content desk.device.1) lease.settings ∧
          ((d.perform (.release h) desk).answer = .ok .done →
            Still content (d.perform (.release h) desk).state.device.1)) ∧
      (∀ order, order.Perm desk.leases.entries →
        s.Orderly pin content (d.device.dismissAll order desk.device).state) ∧
      (d.device.teardown desk).state.device =
        (d.device.dismissAll desk.leases.entries desk.device).state ∧
      Action.runAll plain.perform ks (Desk.vacant t counter) = desk.seen Prod.fst id ∧
      (∀ k, Mirrors (Desk.seen Prod.fst id) id (d.perform k) (plain.perform k)) ∧
      Mirrors (Desk.seen Prod.fst id) id d.device.teardown plain.device.teardown := by
  intro plain d desk
  have tended : desk.Tended (Kept s pin content) :=
    regular.tends.runAll (fun _ => Orderly.nil t) counter ks
  have seen : d.SeenAs Prod.fst id plain := fs.traced_seenAs.channels s
  refine ⟨(tended.holds pin).orderly, ?_, fun order perm => ?_, rfl, ?_, seen.perform,
    seen.device.teardown⟩
  · intro h lease live own
    obtain ⟨key, slot⟩ := HandleTable.get?_eq_some_iff.mp live
    obtain ⟨_, _, at_key, follows⟩ := tended.live slot
    obtain rfl := own.symm.trans at_key
    obtain ⟨config, enabled⟩ := d.perform_look live
    have course := (d.errand (.release h)).course d.device .granted .done desk
    rw [← d.perform_eq] at course
    exact ⟨config, enabled, (follows rfl).shows, still_of_release regular tended course slot rfl⟩
  · exact tended.dismissAll regular.dismisses perm pin
  · exact Action.runAll_mirrors seen.perform ks (Desk.vacant (t, []) counter)

/-- A change of polarity that fails after its stop leaves the channel switched off and its polarity as
it was, and the record says so. -/
theorem attributes_after_half_a_change :
    let s : Sysfs := ⟨⟨"/sys"⟩, 0⟩
    let content := fun (t : Shelf) part => t.bytes (s.partPath 3 part)
    let shelf : Shelf :=
      { files := ⟨[(s.partPath 3 .enable, Text.bytesOf "1\n"), (s.partPath 3 .period, Text.bytesOf "20\n"),
          (s.partPath 3 .duty, Text.bytesOf "15\n"), (s.partPath 3 .polarity, Text.bytesOf "normal\n")]⟩
        script := [false, false, false, false, false, false, false, true] }
    let d := driver Shelf.fileSystem.traced s
    let desk := Action.runAll d.perform
      [.request (.ofPin 3 10 4), .enable ⟨1⟩, .setPolarity ⟨1⟩ .inversed] (Desk.vacant (shelf, []) 1)
    Regular Shelf.fileSystem s 3 content ∧ s.Orderly 3 content desk.device ∧
      (∃ lease, desk.leases.get? ⟨1⟩ = some lease ∧ Shows (content desk.device.1) lease.settings) ∧
      content desk.device.1 .enable = Text.bytesOf "0" ∧
      content desk.device.1 .polarity = Text.bytesOf "normal" ∧ s.Zeroed 3 desk.device.2 ∧
      (d.perform (.release ⟨1⟩) desk).answer = .ok .done ∧
      Still content (d.perform (.release ⟨1⟩) desk).state.device.1 := by
  intro s content shelf d desk
  have regular : Regular Shelf.fileSystem s 3 content := shelf_regular s 3
  have run : (desk.leases.get? ⟨1⟩).map (fun lease => lease.settings.config.pin) = some 3 ∧
      content desk.device.1 .enable = Text.bytesOf "0" ∧
      content desk.device.1 .polarity = Text.bytesOf "normal" ∧
      (∃ w ∈ desk.device.2, w.path = s.partPath 3 .duty ∧
        w.bytes = Text.bytesOf (Text.number 0) ∧ w.fault? = none) ∧
      (d.perform (.release ⟨1⟩) desk).answer = .ok .done := by
    decide +kernel
  obtain ⟨own, enable, polarity, zeroed, released⟩ := run
  obtain ⟨lease, live, pin⟩ := Option.map_eq_some_iff.mp own
  have followed := attributes_follow regular shelf 1
    [.request (.ofPin 3 10 4), .enable ⟨1⟩, .setPolarity ⟨1⟩ .inversed]
  obtain ⟨orderly, at_leases, _⟩ := followed
  obtain ⟨_, _, shows, stills⟩ := at_leases ⟨1⟩ lease live pin
  exact ⟨regular, orderly, ⟨lease, live, shows⟩, enable, polarity, zeroed, released, stills released⟩

end Peripherals.Pwm.Sysfs

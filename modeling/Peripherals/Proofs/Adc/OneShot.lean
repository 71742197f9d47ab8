import Peripherals.Proofs.Adc.Bank
import Peripherals.Proofs.Journal.Faithful
/-!
Faults for one call. A fault that is armed is for the next call to the bank that it can hit, whichever
channel that is on, and for no later one. Main statement: for every run of commands and changes from
outside, what the bank has open, which calls fail, and what the end of the desk leaves open.
-/

set_option autoImplicit false

namespace Peripherals.Adc

/-! ### Faults for one call -/

/-- What bears on a fault: that it is armed, or a call that it can hit and whether the call failed. -/
inductive Beat where
  | armed
  | call (failed : Bool)
  deriving DecidableEq

namespace Beat

/-- The fault is armed, and no call came since. -/
def Armed (beats : List Beat) : Prop :=
  ∃ earlier later, beats = earlier ++ .armed :: later ∧ ∀ beat ∈ later, beat = .armed

/-- Exactly the calls fail that come next after the fault was armed. -/
def OneShot (beats : List Beat) : Prop :=
  ∀ before failed after, beats = before ++ .call failed :: after → (failed = true ↔ Armed before)

private theorem armed_concat (beats : List Beat) : Armed (beats ++ [.armed]) :=
  ⟨beats, [], rfl, fun _ none => nomatch none⟩

private theorem not_armed_nil : ¬ Armed [] := by
  rintro ⟨earlier, later, same, _⟩
  simp at same

private theorem not_armed_concat (beats : List Beat) (failed : Bool) : ¬ Armed
    (beats ++ [.call failed]) := by
  rintro ⟨earlier, later, same, quiet⟩
  rcases List.eq_nil_or_concat later with rfl | ⟨front, last, rfl⟩
  · have ends := congrArg List.getLast? same
    simp at ends
  · have last_armed : last = .armed := quiet last (by simp)
    rw [List.concat_eq_append, ← List.cons_append, ← List.append_assoc] at same
    obtain ⟨_, ends⟩ := List.append_inj' same rfl
    rw [last_armed] at ends
    cases ends

private theorem oneShot_nil : OneShot [] := by
  intro before failed after same
  simp at same

private theorem OneShot.concat {beats : List Beat} (past : OneShot beats) {beat : Beat}
    (fate : ∀ failed, beat = .call failed → (failed = true ↔ Armed beats)) :
    OneShot (beats ++ [beat]) := by
  intro before failed after same
  rcases List.eq_nil_or_concat after with rfl | ⟨front, last, rfl⟩
  · obtain ⟨rfl, last⟩ := List.append_inj' same rfl
    exact fate failed (List.cons.inj last).1
  · rw [List.concat_eq_append, ← List.cons_append, ← List.append_assoc] at same
    obtain ⟨old, _⟩ := List.append_inj' same rfl
    exact past before failed front old

end Beat

namespace Bank

namespace Weakness

def meets : Weakness → Act Config Verb → Bool
  | .read, .use .read => true
  | .close, .close => true
  | _, _ => false

/-- What calls to a bank have to do with the fault. -/
def callBeats (w : Weakness) (calls : Journal Config Verb) : List Beat :=
  (calls.filter fun c => w.meets c.act).map fun c => .call (!c.done)

end Weakness

abbrev WatchedDesk : Type :=
  Desk (Bank × Journal Config Verb) Config (Tagged UInt32)

variable (channels : UInt32)

/-- What happens at a desk on a bank under watch. -/
def happenWatched : Occurrence Command Touch → Action Fault WatchedDesk (Option Answer) :=
  Occurrence.perform (driver channels).watched.perform fun e p => (e.change p.1, p.2)

def callsSince (past now : Bank × Journal Config Verb) : Journal Config Verb :=
  now.2.drop past.2.length

/-- What an occurrence has to do with a fault: it arms the fault, or it makes calls. -/
def beatsOf (w : Weakness) (o : Occurrence Command Touch) (d : WatchedDesk) : List Beat :=
  (if o = .outside (.arm w) then [.armed] else []) ++
    w.callBeats (callsSince d.device (happenWatched channels o d).state.device)

def beats (w : Weakness) : List (Occurrence Command Touch) → WatchedDesk → List Beat
  | [], _ => []
  | o :: os, d => beatsOf channels w o d ++ beats w os (happenWatched channels o d).state

/-! ### What calls have to do with a fault -/

/-- The past of a fault: each call failed that came next after it was armed, and it is waiting if it was
armed since. -/
def Kept (w : Weakness) (b : Bank) (past : List Beat) : Prop :=
  Beat.OneShot past ∧ (w.waits b = true ↔ Beat.Armed past)

/-- The calls from one moment to another do to every fault what is due. -/
def Reckons (p p' : Bank × Journal Config Verb) : Prop :=
  ∃ calls, p'.2 = p.2 ++ calls ∧
    ∀ w past, Kept w p.1 past → Kept w p'.1 (past ++ w.callBeats calls)

private theorem Reckons.refl (p : Bank × Journal Config Verb) : Reckons p p := by
  refine ⟨[], (List.append_nil _).symm, fun w past kept => ?_⟩
  rw [show w.callBeats [] = [] from rfl, List.append_nil]
  exact kept

private theorem Reckons.trans {p p' p'' : Bank × Journal Config Verb} (first : Reckons p p')
    (second : Reckons p' p'') : Reckons p p'' := by
  obtain ⟨calls, journal, kept⟩ := first
  obtain ⟨calls', journal', kept'⟩ := second
  refine ⟨calls ++ calls', ?_, fun w past was => ?_⟩
  · rw [journal', journal, List.append_assoc]
  · have both : w.callBeats (calls ++ calls') = w.callBeats calls ++ w.callBeats calls' := by
      simp [Weakness.callBeats]
    rw [both, ← List.append_assoc]
    exact kept' w _ (kept w past was)

private theorem Reckons.call {b b' : Bank} {j : Journal Config Verb} {c : Call Config Verb}
    (hit : ∀ w : Weakness, w.meets c.act = true → (!c.done) = w.waits b ∧ w.waits b' = false)
    (missed : ∀ w : Weakness, w.meets c.act = false → w.waits b' = w.waits b) :
    Reckons (b, j) (b', j ++ [c]) := by
  refine ⟨[c], rfl, fun w past kept => ?_⟩
  obtain ⟨shots, waiting⟩ := kept
  cases meets : w.meets c.act with
  | true =>
    obtain ⟨fate, gone⟩ := hit w meets
    have beat : w.callBeats [c] = [.call (!c.done)] := by simp [Weakness.callBeats, meets]
    rw [beat]
    refine ⟨shots.concat fun failed same => ?_, ?_⟩
    · rw [← Beat.call.inj same, fate]
      exact waiting
    · rw [gone]
      simpa using Beat.not_armed_concat past _
  | false =>
    have quiet : w.callBeats [c] = [] := by simp [Weakness.callBeats, meets]
    rw [quiet, List.append_nil, Kept, missed w meets]
    exact ⟨shots, waiting⟩

private theorem reckons_claim (c : Config) (p : Bank × Journal Config Verb) :
    Reckons p ((driver channels).watched.claim c p).state := by
  obtain ⟨b, j⟩ := p
  refine Reckons.call (fun w meets => ?_) fun w _ => ?_
  · cases w <;> cases meets
  · rw [claim_apply]
    split
    · rfl
    · cases w <;> simp only [Weakness.waits, insertOpen] <;> split <;> rfl

private theorem reckons_read (p : Bank × Journal Config Verb) (c : Tagged UInt32) :
    Reckons p ((driver channels).watched.read (p, c)).state.1 := by
  obtain ⟨b, j⟩ := p
  refine Reckons.call (fun w meets => ?_) fun w missed => ?_
  all_goals rw [read_apply]
  · obtain rfl : w = .read := by cases w <;> first | rfl | cases meets
    cases armed : b.failRead <;> simp [Weakness.waits, armed, Except.isOk, Except.toBool]
  · obtain rfl : w = .close := by cases w <;> first | rfl | cases missed
    split <;> rfl

private theorem reckons_close (p : Bank × Journal Config Verb) (c : Tagged UInt32) :
    Reckons p ((driver channels).watched.close (p, c)).state.1 := by
  obtain ⟨b, j⟩ := p
  refine Reckons.call (fun w meets => ?_) fun w missed => ?_
  all_goals rw [close_apply]
  · obtain rfl : w = .close := by cases w <;> first | rfl | cases meets
    cases armed : b.failClose <;>
      simp [Weakness.waits, armed, Except.isOk, Except.toBool, eraseOpen]
  · obtain rfl : w = .read := by cases w <;> first | rfl | cases missed
    split <;> rfl

private theorem reckons_windUp (p : (Bank × Journal Config Verb) × Lease Config (Tagged UInt32)) :
    Reckons p.1 ((driver channels).watched.device.windUp p).state.1 := by
  have closes := (((driver channels).watched.device.windUp_apply p).2 rfl).2
  rw [closes]
  exact reckons_close channels p.1 p.2.channel

/-! ### Runs -/

private theorem reckons_command (k : Command) (d : WatchedDesk) :
    Reckons d.device ((driver channels).watched.perform k d).state.device := by
  have course := ((driver channels).watched.errand k).course (driver channels).watched.device
    .granted .done d
  rw [← (driver channels).watched.perform_eq k] at course
  refine course.device_related .refl (reckons_claim channels) (fun h work use p => ?_)
    (reckons_windUp channels)
  cases k with
  | value h =>
    cases use
    rw [Action.map_apply]
    exact reckons_read channels p.1 p.2.channel
  | request c | release h | config h => cases use

/-- What a command or a change from outside has to do with a fault is due. -/
private theorem kept_beatsOf (w : Weakness) (o : Occurrence Command Touch) (d : WatchedDesk)
    {past : List Beat} (kept : Kept w d.device.1 past) :
    Kept w (happenWatched channels o d).state.device.1 (past ++ beatsOf channels w o d) := by
  cases o with
  | command k =>
    have state : (happenWatched channels (.command k) d).state =
        ((driver channels).watched.perform k d).state := (Occurrence.perform_command k d).2
    obtain ⟨calls, journal, keeps⟩ := reckons_command channels k d
    rw [← state] at journal keeps
    have made : callsSince d.device (happenWatched channels (.command k) d).state.device = calls := by
      rw [callsSince, journal, List.drop_left]
    rw [beatsOf, made, if_neg (fun same => nomatch same), List.nil_append]
    exact keeps w past kept
  | outside e =>
    have silent : callsSince d.device (happenWatched channels (.outside e) d).state.device = [] :=
      List.drop_length
    rw [beatsOf, silent, show w.callBeats [] = [] from rfl, List.append_nil]
    change Kept w (e.change d.device.1) _
    by_cases arms : e = .arm w
    · rw [arms, if_pos rfl]
      refine ⟨kept.1.concat (fun _ call => nomatch call), ?_⟩
      have waiting : w.waits ((Touch.arm w).change d.device.1) = true := by cases w <;> rfl
      rw [waiting]
      exact iff_of_true rfl (Beat.armed_concat past)
    · rw [if_neg fun same => arms (Occurrence.outside.inj same), List.append_nil]
      refine ⟨kept.1, ?_⟩
      have same : w.waits (e.change d.device.1) = w.waits d.device.1 := by
        cases e with
        | preset pin value => cases w <;> rfl
        | arm w' => cases w <;> cases w' <;> first | rfl | exact absurd rfl arms
      rw [same]
      exact kept.2

private theorem kept_beats (w : Weakness) (os : List (Occurrence Command Touch)) (d : WatchedDesk)
    {past : List Beat} (kept : Kept w d.device.1 past) :
    Kept w (Action.runAll (happenWatched channels) os d).device.1 (past ++ beats channels w os d) := by
  induction os generalizing d past with
  | nil =>
    rw [beats, List.append_nil]
    exact kept
  | cons o os ih =>
    rw [beats, ← List.append_assoc]
    exact ih _ (kept_beatsOf channels w o d kept)

private theorem kept_start (w : Weakness) : Kept w {} [] := by
  refine ⟨Beat.oneShot_nil, ?_⟩
  have unarmed : w.waits {} = false := by cases w <;> rfl
  rw [unarmed]
  exact iff_of_false Bool.false_ne_true Beat.not_armed_nil

private theorem reckons_dismissAll (order : List (Handle × UInt32 × Lease Config (Tagged UInt32)))
    (p : Bank × Journal Config Verb) :
    Reckons p ((driver channels).watched.device.dismissAll order p).state := by
  induction order generalizing p with
  | nil => exact .refl p
  | cons e rest ih =>
    obtain ⟨h, key, lease⟩ := e
    rw [Device.dismissAll_cons]
    refine .trans ?_ (ih _)
    rw [(driver channels).watched.device.dismiss_state]
    exact reckons_close channels p lease.channel

private theorem happen_mirrors (o : Occurrence Command Touch) :
    Action.Mirrors Desk.unwatched id (happenWatched channels o) (happen channels o) :=
  Occurrence.perform_mirrors (driver channels).perform_watched (fun _ _ => rfl) o

/-- A desk is the only user of a bank, and someone else sets values and arms faults. After every run
the channels that are open are those of the keys of live handles; of the calls that a fault can hit
just those have failed that came next after it was armed; of two consecutive releases of a lease with
no close fault armed in between, one succeeds; and the end of the desk, in whatever order it dismisses
its leases, closes every channel, but for one if a close fault was waiting. -/
theorem open_channels_are_leased_pins (channels : UInt32) (counter : Nat)
    (os : List (Occurrence Command Touch)) :
    let start : WatchedDesk := Desk.vacant ({}, []) counter
    let watched := Action.runAll (happenWatched channels) os start
    let desk := Action.runAll (happen channels) os (Desk.vacant {} counter)
    desk = watched.unwatched ∧
      ((∀ pin, pin ∈ desk.device.opened ↔ ∃ h, desk.leases.keyOf? h = some pin) ∧
        desk.device.opened.Nodup ∧ desk.device.openCount = desk.activeCount) ∧
      (∀ w, Beat.OneShot (beats channels w os start) ∧
        ∀ order, order.Perm watched.leases.entries →
          let last := ((driver channels).watched.device.dismissAll order watched.device).state
          Beat.OneShot (beats channels w os start ++ w.callBeats (callsSince watched.device last))) ∧
      (∀ h lease between, desk.leases.get? h = some lease →
        .outside (.arm .close) ∉ between → .command (.release h) ∉ between →
          let first := happen channels (.command (.release h)) desk
          let second := happen channels (.command (.release h))
            (Action.runAll (happen channels) between first.state)
          first.answer = .ok (some .done) ∨ second.answer = .ok (some .done)) ∧
      ∀ order, order.Perm desk.leases.entries →
        let last := ((driver channels).device.dismissAll order desk.device).state
        (¬ Beat.Armed (beats channels .close os start) ∨ desk.activeCount = 0 → last.opened = []) ∧
          (Beat.Armed (beats channels .close os start) → 0 < desk.activeCount →
            ∃ h pin, desk.leases.keyOf? h = some pin ∧ last.opened = [pin]) := by
  intro start watched desk
  have same : desk = watched.unwatched := Action.runAll_mirrors (happen_mirrors channels) os start
  have t : desk.Tended Lent := tended channels counter os
  have kept (w : Weakness) : Kept w watched.device.1 (beats channels w os start) :=
    kept_beats channels w os start (kept_start w)
  have waiting : desk.device.failClose = true ↔ Beat.Armed (beats channels .close os start) := by
    rw [same]
    exact (kept .close).2
  refine ⟨same, ⟨fun pin => ?_, (t.holds 0).1, openCount_eq t⟩, fun w => ⟨(kept w).1, ?_⟩, ?_, ?_⟩
  · rw [(t.holds pin).2.1, Option.isSome_iff_exists]
    simp only [t.sound.on?_eq_some_iff, HandleTable.keyOf?_eq_some_iff]
    exact exists_comm
  · intro order _ last
    obtain ⟨calls, journal, keeps⟩ := reckons_dismissAll channels order watched.device
    have made : callsSince watched.device last = calls := by
      unfold callsSince
      rw [journal, List.drop_left]
    rw [made]
    exact (keeps w _ (kept w)).1
  · intro h lease between live unarmed consecutive
    obtain ⟨pin, slot⟩ := HandleTable.get?_eq_some_iff.mp live
    exact one_of_two_releases channels slot between unarmed consecutive
  · intro order perm
    obtain ⟨all, but_one⟩ := opened_after_desk channels t perm
    refine ⟨fun calm => all (calm.imp_left fun unarmed => ?_), fun armed => but_one (waiting.mpr armed)⟩
    exact Bool.eq_false_iff.mpr fun armed => unarmed (waiting.mp armed)

/-- Two inputs and a close fault that is armed twice: it is waiting, and one input stays open. -/
theorem one_of_two_inputs_stays_open :
    let os := [.command (.request (.ofPin 3)), .outside (.arm .close), .command (.request (.ofPin 5)),
      .outside (.arm .close)]
    let desk := Action.runAll (happen 8) os (Desk.vacant {} 1)
    Beat.Armed (beats 8 .close os (Desk.vacant ({}, []) 1)) ∧ 0 < desk.activeCount ∧
      ∃ h pin, desk.leases.keyOf? h = some pin ∧
        ((driver 8).device.teardown desk).state.device.opened = [pin] := by
  intro os desk
  have armed : Beat.Armed (beats 8 .close os (Desk.vacant ({}, []) 1)) :=
    ⟨[], [.armed], by decide +kernel, by decide⟩
  have live : 0 < desk.activeCount := by decide +kernel
  exact ⟨armed, live,
    ((open_channels_are_leased_pins 8 1 os).2.2.2.2 _ (List.Perm.refl _)).2 armed live⟩

end Bank

end Peripherals.Adc

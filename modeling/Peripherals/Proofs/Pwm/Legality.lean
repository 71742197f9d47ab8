import Peripherals.Proofs.Desk.Lifecycle
import Peripherals.Proofs.Pwm.Record
/-!
Which calls a desk of pulse-width outputs makes. The journal of a watched device is read back to the
signal of every channel, and a call is lawful if that signal allows it. Main statement: after every
run of commands, over any driver, all calls in the journal were lawful, and at the end of the desk a
running output is closed only after it could not be stopped.
-/

set_option autoImplicit false

namespace Peripherals.Pwm

variable {σ C : Type}

/-! ### Reading a journal back -/

/-- What a call makes of the signal of a channel. A call that failed makes nothing of it. -/
def track (tag : Tag) (o : Option Output) (c : Call Config Verb) : Option Output :=
  if c.tag = tag ∧ c.done = true then
    match c.act with
    | .claim config => some ⟨config.period, config.duty, config.polarity, false⟩
    | .use verb => o.map verb.effect
    | .close => none
  else o

def replay (tag : Tag) (j : Journal Config Verb) : Option Output :=
  j.foldl (track tag) none

private theorem replay_concat (tag : Tag) (j : Journal Config Verb) (c : Call Config Verb) :
    replay tag (j ++ [c]) = track tag (replay tag j) c := by
  simp only [replay, List.foldl_append, List.foldl_cons, List.foldl_nil]

private theorem track_other {tag : Tag} {c : Call Config Verb} (other : c.tag ≠ tag)
    (o : Option Output) :
    track tag o c = o :=
  if_neg fun h => other h.1

private theorem track_failed {c : Call Config Verb} (failed : c.done = false) (tag : Tag)
    (o : Option Output) : track tag o c = o := by
  refine if_neg fun h => ?_
  rw [failed] at h
  cases h.2

private theorem track_done {c : Call Config Verb} (done : c.done = true) (o : Option Output) :
    track c.tag o c = match c.act with
      | .claim config => some ⟨config.period, config.duty, config.polarity, false⟩
      | .use verb => o.map verb.effect
      | .close => none :=
  if_pos ⟨rfl, done⟩

/-! ### Lawful calls -/

/-- The last call that started, stopped or opened the output left it at rest. -/
def AtRest (tag : Tag) (j : Journal Config Verb) : Prop :=
  ∃ o, replay tag j = some o ∧ o.running = false

/-- At rest, or the call just made could not stop the output. -/
def AtRestOrUnstoppable (tag : Tag) (j : Journal Config Verb) : Prop :=
  AtRest tag j ∨ ∃ earlier, j = earlier ++ [⟨tag, .use (.setRunning false), false⟩]

variable (closing : Tag → Journal Config Verb → Prop)

/-- The polarity is for an output at rest, closing for the moment that is given, and a call that was
done leaves no pulse longer than its period. -/
structure Lawful (before : Journal Config Verb) (c : Call Config Verb) : Prop where
  polarity : ∀ polarity, c.act = .use (.setPolarity polarity) → AtRest c.tag before
  close : c.act = .close → closing c.tag before
  duty : c.done = true → c.act ≠ .close →
    ∃ o, replay c.tag (before ++ [c]) = some o ∧ o.duty ≤ o.period

/-- Every call was lawful when it was made. -/
def Legal (j : Journal Config Verb) : Prop :=
  ∀ before c after, j = before ++ c :: after → Lawful closing before c

variable {closing}

theorem legal_nil : Legal closing [] := by
  intro before c after split
  simp at split

private theorem Legal.concat {j : Journal Config Verb} (legal : Legal closing j) {c : Call Config Verb}
    (lawful : Lawful closing j c) : Legal closing (j ++ [c]) := by
  intro before c' after split
  -- The call in question is the new one, or the split lies within the old journal.
  rcases List.eq_nil_or_concat after with rfl | ⟨after', last, rfl⟩
  · obtain ⟨rfl, same⟩ := List.append_inj' split rfl
    obtain rfl := List.singleton_inj.mp same
    exact lawful
  · rw [List.concat_eq_append] at split
    have longer : j ++ [c] = (before ++ c' :: after') ++ [last] := by
      rw [split, List.append_assoc]
      rfl
    obtain ⟨rfl, _⟩ := List.append_inj' longer rfl
    exact legal before c' after' rfl

private theorem Legal.mono {j : Journal Config Verb} (legal : Legal closing j)
    {closing' : Tag → Journal Config Verb → Prop} (weaker : ∀ tag j, closing tag j → closing' tag j) :
    Legal closing' j := by
  intro before c after split
  have lawful := legal before c after split
  exact ⟨lawful.polarity, fun act => weaker _ _ (lawful.close act), lawful.duty⟩

/-! ### The invariant -/

/-- The calls were lawful, and the journal of a leased output reads back to its record, whose pulse is
within its period. -/
def Followed (closing : Tag → Journal Config Verb → Prop) :
    KeyProperty (σ × Journal Config Verb) Signal (Tagged C)
  | pin, p, some lease => Legal closing p.2 ∧ lease.channel.tag.key = pin ∧
    replay lease.channel.tag p.2 = some lease.settings.output ∧
    lease.settings.config.duty ≤ lease.settings.config.period
  | _, p, none => Legal closing p.2

private theorem Followed.legal {pin : UInt32} {p : σ × Journal Config Verb}
    {l : Option (Lease Signal (Tagged C))} (followed : Followed closing pin p l) :
    Legal closing p.2 := by
  cases l with
  | none => exact followed
  | some lease => exact followed.1

private theorem Followed.other {pin : UInt32} {p p' : σ × Journal Config Verb}
    {l : Option (Lease Signal (Tagged C))} (followed : Followed closing pin p l)
    {c : Call Config Verb} (differs : pin ≠ c.tag.key) (journal : p'.2 = p.2 ++ [c])
    (lawful : Lawful closing p.2 c) : Followed closing pin p' l := by
  have legal : Legal closing p'.2 := by
    rw [journal]
    exact followed.legal.concat lawful
  cases l with
  | none => exact legal
  | some lease =>
    obtain ⟨_, at_pin, output, fits⟩ := followed
    refine ⟨legal, at_pin, ?_, fits⟩
    have other : c.tag ≠ lease.channel.tag := by
      intro same
      rw [same, at_pin] at differs
      exact differs rfl
    rw [journal, replay_concat, track_other other, output]

private theorem Followed.mono {pin : UInt32} {p : σ × Journal Config Verb}
    {l : Option (Lease Signal (Tagged C))} (followed : Followed closing pin p l)
    {closing' : Tag → Journal Config Verb → Prop} (weaker : ∀ tag j, closing tag j → closing' tag j) :
    Followed closing' pin p l := by
  cases l with
  | none => exact Legal.mono followed weaker
  | some lease => exact ⟨followed.1.mono weaker, followed.2⟩

private theorem Followed.atRest {pin : UInt32} {p : σ × Journal Config Verb}
    {lease : Lease Signal (Tagged C)} (followed : Followed closing pin p (some lease))
    (rest : lease.settings.running = false) : AtRest lease.channel.tag p.2 :=
  ⟨_, followed.2.2.1, rest⟩

/-! ### Every call -/

/-- A verb that fits is lawful, and the record after it is what the journal reads back to. -/
private theorem lawful_use {pin : UInt32} {p : σ × Journal Config Verb}
    {lease : Lease Signal (Tagged C)} (followed : Followed closing pin p (some lease)) {verb : Verb}
    (fits : verb.Fits lease.settings) (done : Bool) :
    Lawful closing p.2 ⟨lease.channel.tag, .use verb, done⟩ ∧
      replay lease.channel.tag (p.2 ++ [⟨lease.channel.tag, .use verb, done⟩]) =
        some (if done then verb.note lease.settings else lease.settings).output ∧
      (verb.note lease.settings).config.duty ≤ (verb.note lease.settings).config.period := by
  obtain ⟨legal, at_pin, output, within⟩ := followed
  have after : replay lease.channel.tag (p.2 ++ [⟨lease.channel.tag, .use verb, done⟩]) =
      some (if done then verb.note lease.settings else lease.settings).output := by
    rw [replay_concat, output]
    cases done with
    | false => exact track_failed rfl _ _
    | true => exact (track_done rfl _).trans (congrArg some (verb.output_note _).symm)
  have still : (verb.note lease.settings).config.duty ≤ (verb.note lease.settings).config.period := by
    cases verb with
    | setRunning on => exact within
    | setPeriod period => exact fits
    | setDuty duty => exact fits
    | setPolarity polarity => exact within
  refine ⟨⟨?_, (fun act => nomatch act), ?_⟩, after, still⟩
  · rintro polarity act
    obtain rfl := Act.use.inj act
    exact ⟨_, output, fits⟩
  · rintro rfl _
    exact ⟨_, after, still⟩

private theorem lawful_claim {c : Config} {done : Bool} (fits : done = true → c.duty ≤ c.period)
    (j : Journal Config Verb) (n : Nat) : Lawful closing j ⟨⟨n, c.pin⟩, .claim c, done⟩ := by
  refine ⟨(fun _ act => nomatch act), (fun act => nomatch act), fun opened _ => ?_⟩
  refine ⟨⟨c.period, c.duty, c.polarity, false⟩, ?_, fits opened⟩
  rw [replay_concat]
  exact track_done opened _

private theorem lawful_close {tag : Tag} {j : Journal Config Verb} (ready : closing tag j)
    (done : Bool) : Lawful closing j ⟨tag, .close, done⟩ :=
  ⟨(fun _ act => nomatch act), fun _ => ready, fun _ other => absurd rfl other⟩

/-- A desk over a watched device follows its journal. -/
theorem Driver.watched_tends (d : Driver σ C) (rests : ∀ tag j, AtRest tag j → closing tag j) :
    d.watched.Tends (Followed closing) where
  claim_others c p fits bare key l differs followed :=
    followed.other differs (Journal.claiming_state c.pin c (d.claim c) p)
      (lawful_claim (fun _ => fits) _ _)
  claim_error c p f _ bare failed := by
    change Legal closing (Journal.claiming c.pin c (d.claim c) p).state.2
    change (Journal.claiming c.pin c (d.claim c) p).answer = _ at failed
    rw [Journal.claiming_state, failed]
    exact Legal.concat bare (lawful_claim (fun opened => nomatch (opened : false = true)) _ _)
  claim_ok c p ch fits bare claimed := by
    have tag : ch.tag = ⟨p.2.length, c.pin⟩ := Journal.claiming_tag claimed
    have journal := Journal.claiming_state c.pin c (d.claim c) p
    change (Journal.claiming c.pin c (d.claim c) p).answer = _ at claimed
    rw [claimed] at journal
    refine ⟨?_, by rw [tag], ?_, fits⟩
    · change Legal closing (Journal.claiming c.pin c (d.claim c) p).state.2
      rw [journal]
      exact Legal.concat bare (lawful_claim (fun _ => fits) _ _)
    · change replay ch.tag (Journal.claiming c.pin c (d.claim c) p).state.2 = _
      rw [journal, replay_concat, tag]
      exact track_done rfl _
  turn verb pin p followed fits := by
    obtain ⟨lawful, after, within⟩ :=
      lawful_use followed fits (d.calls verb (p.1.1, p.2.channel.channel)).answer.isOk
    rw [(d.watched.turn_apply verb p).2, d.watched_calls]
    refine ⟨⟨followed.legal.concat lawful, followed.2.1, after, ?_⟩,
      fun other l differs other_followed => ?_⟩
    · dsimp only
      split
      · exact within
      · exact followed.2.2.2
    · exact other_followed.other (followed.2.1.symm ▸ differs) rfl lawful
  close_others pin p lease followed rest other l differs other_followed :=
    other_followed.other (followed.2.1.symm ▸ differs) rfl
      (lawful_close (rests _ _ (followed.atRest rest)) _)
  close_error pin p lease f followed rest failed := by
    have lawful := lawful_close (rests _ _ (followed.atRest rest)) false
    change (d.close (p.1, lease.channel.channel)).answer = _ at failed
    change Legal closing (p.2 ++ [⟨_, _, (d.close (p.1, lease.channel.channel)).answer.isOk⟩]) ∧ _ ∧
      replay _ (p.2 ++ [⟨_, _, (d.close (p.1, lease.channel.channel)).answer.isOk⟩]) = _ ∧ _
    rw [failed]
    refine ⟨followed.legal.concat lawful, followed.2.1, ?_, followed.2.2.2⟩
    rw [replay_concat]
    exact (track_failed rfl _ _).trans followed.2.2.1
  close_ok pin p lease followed rest closed :=
    followed.legal.concat (lawful_close (rests _ _ (followed.atRest rest)) _)

/-! ### Outputs that cannot be stopped -/

private theorem Driver.watched_halt_error (d : Driver σ C)
    {p : (σ × Journal Config Verb) × Lease Signal (Tagged C)} {f : Fault}
    (failed : (d.watched.halt p).answer = .error f) :
    (d.watched.halt p).state.1.2 =
        p.1.2 ++ [⟨p.2.channel.tag, .use (.setRunning false), false⟩] ∧
      (d.watched.halt p).state.2.channel.tag = p.2.channel.tag ∧
      (d.watched.halt p).state.2.settings = p.2.settings := by
  rw [d.watched.halt_apply] at failed ⊢
  split at failed
  · next running =>
    obtain ⟨answer, state⟩ := d.watched.turn_apply (.setRunning false) p
    rw [d.watched.run_eq_turn, answer] at failed
    rw [if_pos running, d.watched.run_eq_turn, state, failed]
    change (d.setRunning false (p.1.1, p.2.channel.channel)).answer = _ at failed
    refine ⟨?_, rfl, rfl⟩
    change p.1.2 ++ [⟨_, _, (d.setRunning false (p.1.1, p.2.channel.channel)).answer.isOk⟩] = _
    rw [failed]
    rfl
  · cases failed

private theorem Driver.release_unstoppable (d : Driver σ C)
    {desk : Desk (σ × Journal Config Verb) Signal (Tagged C)} {h : Handle}
    {lease : Lease Signal (Tagged C)} (live : desk.leases.get? h = some lease)
    (running : lease.settings.running = true) {f : Fault}
    (failed : (d.setRunning false (desk.device.1, lease.channel.channel)).answer = .error f) :
    (d.watched.perform (.release h) desk).answer = .error f ∧
      (d.watched.perform (.release h) desk).state.device.2 =
        desk.device.2 ++ [⟨lease.channel.tag, .use (.setRunning false), false⟩] ∧
      ∃ lease', (d.watched.perform (.release h) desk).state.leases.get? h = some lease' ∧
        lease'.channel.tag = lease.channel.tag ∧ lease'.settings = lease.settings := by
  obtain ⟨key, slot⟩ := HandleTable.get?_eq_some_iff.mp live
  have halted : (d.watched.halt (desk.device, lease)).answer = .error f := by
    rw [d.watched.halt_apply, if_pos running, d.watched.run_eq_turn]
    exact (d.watched.turn_apply (.setRunning false) (desk.device, lease)).1.trans failed
  obtain ⟨journal, tag, settings⟩ := d.watched_halt_error halted
  obtain ⟨answer, state⟩ := (d.watched.device.windUp_apply (desk.device, lease)).1 f halted
  obtain ⟨refused, left⟩ := (d.watched.device.release_live slot).1 f answer
  obtain ⟨refused', left'⟩ :=
    Action.bind_error (fun _ => (pure .done : Action Fault _ Answer)) refused
  refine ⟨refused', ?_⟩
  change (d.watched.perform (.release h) desk).state = _ at left'
  rw [left', left]
  refine ⟨(congrArg (fun p => p.1.2) state).trans journal,
    (d.watched.halt (desk.device, lease)).state.2, ?_, tag, settings⟩
  refine HandleTable.get?_eq_some_iff.mpr ⟨key, ?_⟩
  change (desk.leases.set h (d.watched.device.windUp (desk.device, lease)).state.2).slots.get? h = _
  rw [HandleTable.slots_set slot, if_pos rfl]
  exact congrArg (fun p => some (key, p.2)) state

/-! ### The end of a desk -/

private theorem Driver.watched_dismisses (d : Driver σ C) :
    d.watched.device.Dismisses (Followed AtRestOrUnstoppable) := by
  intro h pin p lease followed
  rw [d.watched.device.dismiss_state]
  have tends : d.watched.Tends (Followed AtRestOrUnstoppable) := d.watched_tends fun _ _ => .inl
  obtain ⟨kept, others, rests⟩ := tends.keeps_halt pin (p, lease) followed trivial
  change Legal _ (d.watched.device.close (d.watched.halt (p, lease)).state).state.1.2 ∧
    ∀ other (l : Option (Lease Signal (Tagged C))), other ≠ pin → Followed _ other p l →
      Followed _ other (d.watched.device.close (d.watched.halt (p, lease)).state).state.1 l
  -- A halt that is done leaves the output at rest; one that fails is the call just made.
  have ready : AtRestOrUnstoppable (d.watched.halt (p, lease)).state.2.channel.tag
      (d.watched.halt (p, lease)).state.1.2 := by
    cases answer : (d.watched.halt (p, lease)).answer with
    | ok u => exact .inl (kept.atRest (rests u answer))
    | error f =>
      obtain ⟨journal, tag, _⟩ := d.watched_halt_error answer
      rw [journal, tag]
      exact .inr ⟨p.2, rfl⟩
  have lawful (done : Bool) := lawful_close ready done
  refine ⟨kept.legal.concat (lawful _), fun other l differs other_followed => ?_⟩
  exact (others other l differs other_followed).other (kept.2.1.symm ▸ differs) rfl (lawful _)

private theorem Followed.dismissAll (d : Driver σ C)
    (order : List (Handle × UInt32 × Lease Signal (Tagged C))) {p : σ × Journal Config Verb}
    (legal : Legal AtRestOrUnstoppable p.2)
    (pins : (order.map fun e => e.2.1).Nodup)
    (followed : ∀ e ∈ order, Followed AtRestOrUnstoppable e.2.1 p (some e.2.2)) :
    Legal AtRestOrUnstoppable (d.watched.device.dismissAll order p).state.2 :=
  d.watched_dismisses.dismissAll order pins followed (fun _ _ => legal) 0

private theorem Driver.prefix_dismissAll (d : Driver σ C)
    (order : List (Handle × UInt32 × Lease Signal (Tagged C))) (p : σ × Journal Config Verb) :
    p.2 <+: (d.watched.device.dismissAll order p).state.2 := by
  induction order generalizing p with
  | nil => exact List.prefix_rfl
  | cons e rest ih =>
    obtain ⟨h, pin, lease⟩ := e
    rw [d.watched.device.dismissAll_cons]
    refine List.IsPrefix.trans ?_ (ih _)
    rw [d.watched.device.dismiss_state]
    obtain ⟨_, calls, journal, _⟩ := d.watched_observed.rest (p, lease)
    obtain ⟨_, last⟩ := d.watched_observed.close (d.watched.device.rest (p, lease)).state
    rw [last, journal, List.append_assoc]
    exact List.prefix_append _ _

/-- Over every driver and after every run of commands, failed ones included, the polarity was set and
outputs were closed only at rest, and no call that was done left a pulse longer than its period. An
output that cannot be stopped is not closed by a release. When the desk goes away, in whatever order
its leases are dismissed, an output is closed at rest or right after it could not be stopped. The
calls are those of a watched driver, which changes nothing else. -/
theorem calls_legal {σ C : Type} (d : Driver σ C) (s : σ) (counter : Nat) (ks : List Command) :
    let desk := Action.runAll d.watched.perform ks (Desk.vacant (s, []) counter)
    Legal AtRest desk.device.2 ∧
      (∀ h lease f, desk.leases.get? h = some lease → lease.settings.running = true →
        (d.setRunning false (desk.device.1, lease.channel.channel)).answer = .error f →
        (d.watched.perform (.release h) desk).answer = .error f ∧
          (d.watched.perform (.release h) desk).state.device.2 =
            desk.device.2 ++ [⟨lease.channel.tag, .use (.setRunning false), false⟩] ∧
          ∃ lease', (d.watched.perform (.release h) desk).state.leases.get? h = some lease' ∧
            lease'.channel.tag = lease.channel.tag ∧ lease'.settings = lease.settings) ∧
      (∀ order, order.Perm desk.leases.entries →
        let last := (d.watched.device.dismissAll order desk.device).state.2
        desk.device.2 <+: last ∧ Legal AtRestOrUnstoppable last) ∧
      (d.watched.device.teardown desk).state.device =
        (d.watched.device.dismissAll desk.leases.entries desk.device).state ∧
      Action.runAll d.perform ks (Desk.vacant s counter) = desk.unwatched ∧
      (∀ k, Action.Mirrors Desk.unwatched id (d.watched.perform k) (d.perform k)) ∧
      Action.Mirrors Desk.unwatched id d.watched.device.teardown d.device.teardown := by
  intro desk
  have tends : d.watched.Tends (Followed AtRest) := d.watched_tends fun _ _ rest => rest
  have start (pin : UInt32) :
      Followed AtRest pin (s, []) (none : Option (Lease Signal (Tagged C))) := legal_nil
  have tended : desk.Tended (Followed AtRest) := tends.runAll start counter ks
  refine ⟨(tended.holds 0).legal, ?_, fun order perm => ⟨d.prefix_dismissAll order _, ?_⟩, rfl, ?_,
    d.perform_watched, d.watched_mirroredBy.teardown⟩
  · intro h lease f live running failed
    exact d.release_unstoppable live running failed
  · refine Followed.dismissAll d order ((tended.holds 0).legal.mono fun _ _ => .inl) ?_ ?_
    · exact (perm.map _).nodup_iff.mpr tended.sound.nodup_entries_keys
    · intro e member
      have slot := tended.sound.slots_of_mem_entries (perm.mem_iff.mp member)
      exact (tended.live slot).mono fun _ _ => .inl
  · exact Action.runAll_mirrors d.perform_watched ks (Desk.vacant (s, []) counter)

end Peripherals.Pwm

import Peripherals.Proofs.Desk.Tended
import Peripherals.Proofs.Pwm.Turn
/-!
How a desk of pulse-width outputs uses its device. Every verb has a moment when it fits: the polarity
is for an output at rest, and no pulse is longer than its period. Main statement: what every call
keeps that is made when it fits, every command keeps.
-/

set_option autoImplicit false

namespace Peripherals.Pwm

variable {σ C : Type}

/-- The verb may be used on an output with this record. -/
def Verb.Fits : Verb → Signal → Prop
  | .setRunning _ => fun _ => True
  | .setPeriod period => fun s => s.config.duty ≤ period
  | .setDuty duty => fun s => duty ≤ s.config.period
  | .setPolarity _ => fun s => s.running = false

theorem checkDuty_ok {period duty : UInt32} (h : checkDuty period duty = .ok ()) : duty ≤ period := by
  unfold checkDuty at h
  split at h
  · cases h
  · next fits => exact UInt32.not_lt.mp fits

namespace Driver

variable (d : Driver σ C)

/-- Every call to the device keeps the property if it is made when it fits, and closing an output at
rest ends it well. -/
structure Tends (P : KeyProperty σ Signal C) : Prop where
  claim_others : ∀ c s, c.duty ≤ c.period → P c.pin s none →
    ∀ key l, key ≠ c.pin → P key s l → P key (d.claim c s).state l
  claim_error : ∀ c s f, c.duty ≤ c.period → P c.pin s none → (d.claim c s).answer = .error f →
    P c.pin (d.claim c s).state none
  claim_ok : ∀ c s ch, c.duty ≤ c.period → P c.pin s none → (d.claim c s).answer = .ok ch →
    P c.pin (d.claim c s).state (some ⟨⟨c, false⟩, ch⟩)
  turn : ∀ verb key p, P key p.1 (some p.2) → verb.Fits p.2.settings →
    P key (d.turn verb p).state.1 (some (d.turn verb p).state.2) ∧
      ∀ other l, other ≠ key → P other p.1 l → P other (d.turn verb p).state.1 l
  close_others : ∀ key s lease, P key s (some lease) → lease.settings.running = false →
    ∀ other l, other ≠ key → P other s l → P other (d.close (s, lease.channel)).state.1 l
  close_error : ∀ key s lease f, P key s (some lease) → lease.settings.running = false →
    (d.close (s, lease.channel)).answer = .error f →
    P key (d.close (s, lease.channel)).state.1
      (some { lease with channel := (d.close (s, lease.channel)).state.2 })
  close_ok : ∀ key s lease, P key s (some lease) → lease.settings.running = false →
    (d.close (s, lease.channel)).answer = .ok () → P key (d.close (s, lease.channel)).state.1 none

theorem perform_look {desk : Desk σ Signal C} {h : Handle} {lease : Lease Signal C}
    (live : desk.leases.get? h = some lease) :
    (d.perform (.config h) desk).answer = .ok (.config lease.settings.config) ∧
      (d.perform (.isEnabled h) desk).answer = .ok (.enabled lease.settings.running) := by
  constructor
  all_goals
    rw [d.perform_eq]
    simp only [errand, Errand.run, Desk.inspect, live]

namespace Tends

variable {d} {P : KeyProperty σ Signal C}

private theorem keeps_turn (t : d.Tends P) (verb : Verb) :
    Keeps P (fun lease => verb.Fits lease.settings) (d.turn verb) fun _ _ => True := by
  intro key p good fits
  obtain ⟨kept, others⟩ := t.turn verb key p good fits
  exact ⟨kept, others, fun _ _ => trivial⟩

private theorem keeps_run (t : d.Tends P) (on : Bool) :
    Keeps P (fun _ => True) (d.turn (.setRunning on)) fun _ lease => lease.settings.running = on := by
  intro key p good _
  obtain ⟨kept, others⟩ := t.turn (.setRunning on) key p good trivial
  refine ⟨kept, others, fun u done => ?_⟩
  obtain ⟨answer, state⟩ := d.turn_apply (.setRunning on) p
  rw [answer] at done
  rw [state, done]
  rfl

private theorem keeps_recorded (R : Lease Signal C → Prop) :
    Keeps P R recorded fun s lease => s = lease.settings :=
  .of_still (fun _ => rfl) fun _ _ _ answer => (Except.ok.inj answer).symm

private theorem keeps_check {R : Lease Signal C → Prop} (period duty : UInt32) :
    Keeps P R (Action.ofExcept (checkDuty period duty)) fun _ lease => R lease ∧ duty ≤ period :=
  .of_still (fun _ => rfl) fun _ _ ready answer => ⟨ready, checkDuty_ok answer⟩

private theorem keeps_stop (t : d.Tends P) (s : Signal) :
    Keeps P (fun lease => s = lease.settings)
      (if s.running then d.turn (.setRunning false) else pure ())
      fun _ lease => lease.settings.running = false := by
  split
  · exact (t.keeps_run false).weaken (fun _ _ => trivial) fun _ _ rest => rest
  · next rest =>
    refine .pure fun lease same => ?_
    subst same
    exact Bool.eq_false_iff.mpr rest

private theorem keeps_start (t : d.Tends P) (running : Bool) :
    Keeps P (fun _ => True) (if running then d.turn (.setRunning true) else pure ())
      fun _ _ => True := by
  split
  · exact (t.keeps_run true).weaken (fun _ _ => trivial) fun _ _ _ => trivial
  · exact .pure fun _ _ => trivial

theorem keeps_halt (t : d.Tends P) :
    Keeps P (fun _ => True) d.halt fun _ lease => lease.settings.running = false :=
  (keeps_recorded _).bind fun s => t.keeps_stop s

private theorem keeps_changePeriod (t : d.Tends P) (period : UInt32) :
    Keeps P (fun _ => True) (d.changePeriod period) fun _ _ => True := by
  rw [changePeriod_eq_turn]
  refine (keeps_recorded _).bind fun s => (keeps_check period s.config.duty).bind fun _ => ?_
  refine (t.keeps_turn (.setPeriod period)).weaken ?_ fun _ _ _ => trivial
  rintro lease ⟨rfl, fits⟩
  exact fits

private theorem keeps_changeDuty (t : d.Tends P) (duty : UInt32) :
    Keeps P (fun _ => True) (d.changeDuty duty) fun _ _ => True := by
  rw [changeDuty_eq_turn]
  refine (keeps_recorded _).bind fun s => (keeps_check s.config.period duty).bind fun _ => ?_
  refine (t.keeps_turn (.setDuty duty)).weaken ?_ fun _ _ _ => trivial
  rintro lease ⟨rfl, fits⟩
  exact fits

private theorem keeps_changePolarity (t : d.Tends P) (polarity : Polarity) :
    Keeps P (fun _ => True) (d.changePolarity polarity) fun _ _ => True := by
  rw [changePolarity_eq_turn]
  refine (keeps_recorded _).bind fun s => (t.keeps_stop s).bind fun _ => ?_
  exact (t.keeps_turn (.setPolarity polarity)).bind fun _ => t.keeps_start s.running

theorem works (t : d.Tends P) (k : Command) (h : Handle)
    (work : Action Fault (σ × Lease Signal C) Answer) (use : d.errand k = .use h work) :
    Keeps P (fun _ => True) work fun _ _ => True := by
  cases k with
  | enable h =>
    cases use
    exact (t.keeps_run true).map _
  | disable h =>
    cases use
    exact (t.keeps_run false).map _
  | setPeriod h period =>
    cases use
    exact (t.keeps_changePeriod period).map _
  | setDuty h duty =>
    cases use
    exact (t.keeps_changeDuty duty).map _
  | setPolarity h polarity =>
    cases use
    exact (t.keeps_changePolarity polarity).map _
  | request c | release h | config h | isEnabled h => cases use

private theorem windUp (t : d.Tends P) {key : UInt32} {p : σ × Lease Signal C}
    (good : P key p.1 (some p.2)) :
    (∀ other l, other ≠ key → P other p.1 l → P other (d.device.windUp p).state.1 l) ∧
      (∀ f, (d.device.windUp p).answer = .error f →
        P key (d.device.windUp p).state.1 (some (d.device.windUp p).state.2)) ∧
      ((d.device.windUp p).answer = .ok () → P key (d.device.windUp p).state.1 none) := by
  obtain ⟨kept, others, rests⟩ := t.keeps_halt key p good trivial
  cases h : (d.halt p).answer with
  | error e =>
    obtain ⟨answer, state⟩ := (d.device.windUp_apply p).1 e h
    rw [answer, state]
    exact ⟨others, fun _ _ => kept, fun closed => nomatch closed⟩
  | ok u =>
    obtain ⟨answer, state⟩ := (d.device.windUp_apply p).2 h
    rw [answer, state]
    have rest := rests u h
    refine ⟨fun other l differs was => ?_, fun f failed => ?_, fun closed => ?_⟩
    · exact t.close_others key _ _ kept rest other l differs (others other l differs was)
    · exact t.close_error key _ _ f kept rest failed
    · exact t.close_ok key _ _ kept rest closed

private theorem device (t : d.Tends P) :
    d.device.Tends P fun s => s.running = false ∧ s.config.duty ≤ s.config.period where
  claim_others s t' fit bare := t.claim_others s.config t' fit.2 bare
  claim_error s t' f fit bare := t.claim_error s.config t' f fit.2 bare
  claim_ok s t' c fit bare claim := by
    obtain ⟨config, running⟩ := s
    obtain ⟨rfl, fits⟩ := fit
    exact t.claim_ok config t' c fits bare claim
  windUp_others _ _ good := (t.windUp good).1
  windUp_error _ _ f good := (t.windUp good).2.1 f
  windUp_ok _ _ good := (t.windUp good).2.2

theorem step (t : d.Tends P) (k : Command) {desk : Desk σ Signal C} (tended : desk.Tended P) :
    (d.perform k desk).state.Tended P := by
  have course := (d.errand k).course d.device .granted .done desk
  rw [← d.perform_eq k] at course
  refine Desk.Tended.step course t.device ?_ (t.works k) tended
  intro s asks
  cases k with
  | request c =>
    obtain ⟨check, rfl⟩ := Errand.request.inj asks
    exact ⟨rfl, checkDuty_ok check⟩
  | release h | enable h | disable h | setPeriod h p | setDuty h p | setPolarity h p | config h
    | isEnabled h => cases asks

/-- Every run keeps the property of all keys. -/
theorem runAll (t : d.Tends P) {s : σ} (start : ∀ key, P key s none) (counter : Nat)
    (ks : List Command) : (Action.runAll d.perform ks (Desk.vacant s counter)).Tended P :=
  Action.runAll_invariant (I := Desk.Tended P) (fun k _ tended => t.step k tended) ks
    (.vacant start counter)

end Tends

end Driver

end Peripherals.Pwm

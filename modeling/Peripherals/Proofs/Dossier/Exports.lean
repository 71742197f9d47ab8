import Peripherals.Proofs.Dossier.Desk
import Peripherals.Proofs.Gpio.Ports
import Peripherals.Proofs.Pwm.Ports
import Peripherals.Proofs.Pwm.Use
/-!
Exports of lines and of channels. Main statement: over every file system, whatever fails there, a
desk unexports just what it exported, once each, and forgets nothing that it exported.
-/

set_option autoImplicit false

namespace Peripherals

variable {φ S T V C A K α : Type}

private theorem Held.start (p : Ports C) (key : UInt32) (s : φ) :
    Held p key ((s, []) : φ × Dossier T V) (none : Option (Lease S (Tagged C))) where
  left :=
    { placed := fun _ _ place => nomatch place
      fair := fun _ member => nomatch member
      stories := fun _ => ⟨false, .untouched⟩
      spared := fun _ member => nomatch member }
  right := fun _ => rfl

private theorem Desk.settled_of_errands {dev : Device (φ × Dossier T V) S (Tagged C)} {p : Ports C}
    {granted : Handle → A} {done : A} {errand : K → Errand (φ × Dossier T V) S (Tagged C) A}
    {perform : K → Action Fault (Desk (φ × Dossier T V) S (Tagged C)) A}
    (same : ∀ k, perform k = (errand k).run dev granted done) (deals : dev.Deals p)
    (works : ∀ k h work, errand k = .use h work →
      Keeps (Held p) (fun _ => True) work fun _ _ => True)
    (s : φ) (counter : Nat) (ks : List K) :
    (Action.runAll perform ks (Desk.vacant (s, []) counter)).Settled dev p granted errand perform := by
  have step (k : K) (d : Desk (φ × Dossier T V) S (Tagged C)) (tended : d.Tended (Held p)) :
      (perform k d).state.Tended (Held p) := by
    have course := (errand k).course dev granted done d
    rw [← same k] at course
    exact Desk.Tended.step course deals.tends (fun _ _ => trivial) (works k) tended
  have start : (Desk.vacant ((s, []) : φ × Dossier T V) counter : Desk _ S (Tagged C)).Tended (Held p) :=
    .vacant (fun key => Held.start p key s) counter
  exact (Action.runAll_invariant (I := Desk.Tended (Held p)) step ks start).settled same deals

private theorem Keeps.calling {p : Ports C} {x : Action Fault ((φ × FileLog) × C) α}
    (passes : p.Passes x)
    (verb : V) : Keeps (S := S) (Held (T := T) p) (fun _ => True)
      (Action.zoom Lease.channelLens (Dossier.calling (.use verb) x)) fun _ _ => True := by
  intro key q held _
  obtain ⟨kept, others⟩ := held.use passes verb
  exact ⟨kept _, others, fun _ _ => trivial⟩

/-! ### Lines -/

namespace Gpio.Driver

variable {d : Driver (φ × FileLog) C} {p : Ports C}

private theorem documented_deals (claims : ∀ c : Config, p.Claims c.line (d.claim c))
    (closes : p.Closes d.close) :
    d.documented.device.Deals p where
  claim c := ⟨c, d.claim c, rfl, claims c⟩
  rest key q lease own := by
    refine ⟨rfl, own, rfl, [], ?_, fun r member => nomatch member⟩
    exact (List.append_nil _).symm
  rest_held := .pure fun _ _ => trivial
  close := ⟨d.close, rfl, closes⟩

private theorem documented_works (reads : p.Passes d.read) (writes : ∀ level, p.Passes (d.write level))
    (k : Command) (h : Handle) (work : Action Fault _ Answer)
    (use : d.documented.errand k = .use h work) :
    Keeps (Held p) (fun _ => True) work fun _ _ => True := by
  cases k with
  | level h =>
    cases use
    exact (Keeps.calling reads _).map _
  | drive h level =>
    cases use
    refine Keeps.map (Q := fun _ _ => True) ?_ _
    refine Keeps.bind (Q := fun _ _ => True) (.of_still (fun _ => rfl) fun _ _ _ _ => trivial) fun q => ?_
    dsimp only
    split
    · exact Keeps.calling (writes level) _
    · exact .of_still (fun _ => rfl) fun _ _ _ answer => nomatch answer
  | request c | release h | name h | direction h | line h => cases use

end Gpio.Driver

/-! ### Channels -/

namespace Pwm.Driver

variable {d : Driver (φ × FileLog) C} {p : Ports C}

private theorem documented_tends (claims : ∀ c : Config, p.Claims c.pin (d.claim c))
    (passes : ∀ verb, p.Passes (d.calls verb)) (closes : p.Closes d.close) :
    d.documented.Tends (Held p) where
  claim_others c s _ bare key l differs was := (bare.claim (claims c) c).1 key l differs was
  claim_error c s f _ bare failed := (bare.claim (claims c) c).2.1 f failed
  claim_ok c s ch _ bare opened := (bare.claim (claims c) c).2.2 ch ⟨c, false⟩ opened
  turn verb key q held _ := by
    obtain ⟨kept, others⟩ := held.use (passes verb) verb
    rw [(d.documented.turn_apply verb q).2, d.documented_calls verb]
    exact ⟨kept _, others⟩
  close_others key s lease held _ := (held.close closes).2.2
  close_error key s lease f held _ _ := (held.close closes).1 _
  close_ok key s lease held _ _ := (held.close closes).2.1

private theorem documented_deals (claims : ∀ c : Config, p.Claims c.pin (d.claim c))
    (passes : ∀ verb, p.Passes (d.calls verb)) (closes : p.Closes d.close) :
    d.documented.device.Deals p where
  claim s := ⟨s.config, d.claim s.config, rfl, claims s.config⟩
  rest key q lease own := by
    change (d.documented.halt (q, lease)).state.2.channel.tag = _ ∧ _
    rw [show d.documented.device.rest = d.documented.halt from rfl, d.documented.halt_apply]
    split
    · -- The call that stops the output is the only one.
      rw [d.documented.run_eq_turn, (d.documented.turn_apply _ _).2, d.documented_calls]
      obtain ⟨log, journal, quiet, tag, own', marked⟩ :=
        Dossier.using_apply (T := Config) (passes (.setRunning false)) (.setRunning false) q own
      refine ⟨tag, own', marked, _, journal, fun r member => ?_⟩
      rw [List.mem_singleton.mp member]
      exact ⟨rfl, quiet⟩
    · exact ⟨rfl, own, rfl, [], (List.append_nil _).symm, fun r member => nomatch member⟩
  rest_held := (documented_tends claims passes closes).keeps_halt.weaken (fun _ ready => ready)
    fun _ _ _ => trivial
  close := ⟨d.close, rfl, closes⟩

end Pwm.Driver

private theorem Pwm.Sysfs.calls_pass {F : Type} (fs : FileSystem φ F) (s : Pwm.Sysfs)
    (verb : Pwm.Verb) :
    s.ports.Passes ((Pwm.Sysfs.driver fs.watched s).calls verb) := by
  cases verb with
  | setRunning on => exact s.set_passes fs "enable" _
  | setPeriod period => exact s.set_passes fs "period" _
  | setDuty duty => exact s.set_passes fs "duty_cycle" _
  | setPolarity polarity => exact s.set_passes fs "polarity" _

/-! ### The exports of a run -/

/-- Over every file system, in which all may succeed or fail at any time, and after every run of
commands: each unexport that was done belongs to the export by which its own channel was opened, and
there is no other; a resource that was found is not unexported; a request that fails unexports once
what it exported and fails as its first failing step did; a release that fails to unexport keeps the
mark, and the next one tries again. If no unexport failed, what is exported and not unexported is what
the leases hold, and nothing is left once no lease is, also when the desk goes away. The calls and the
files are seen through a driver and a file system that write down what they are asked, and do nothing
else. -/
theorem exports_settled {F : Type} (fs : FileSystem φ F) (s : φ) (counter : Nat) :
    (∀ (g : Gpio.Sysfs) (ks : List Gpio.Command),
      let plain := Gpio.Sysfs.driver fs g
      let d := (Gpio.Sysfs.driver fs.watched g).documented
      let desk := Action.runAll d.perform ks (Desk.vacant (s, []) counter)
      desk.Settled d.device g.ports .granted d.errand d.perform ∧
        (d.device.teardown desk).state.device =
          (d.device.dismissAll desk.leases.entries desk.device).state ∧
        Action.runAll plain.perform ks (Desk.vacant s counter) = desk.seen Prod.fst Tagged.channel ∧
        (∀ k, Action.Mirrors (Desk.seen Prod.fst Tagged.channel) id (d.perform k) (plain.perform k)) ∧
        Action.Mirrors (Desk.seen Prod.fst Tagged.channel) id d.device.teardown plain.device.teardown) ∧
    (∀ (chip : Pwm.Sysfs) (ks : List Pwm.Command),
      let plain := Pwm.Sysfs.driver fs chip
      let d := (Pwm.Sysfs.driver fs.watched chip).documented
      let desk := Action.runAll d.perform ks (Desk.vacant (s, []) counter)
      desk.Settled d.device chip.ports .granted d.errand d.perform ∧
        (d.device.teardown desk).state.device =
          (d.device.dismissAll desk.leases.entries desk.device).state ∧
        Action.runAll plain.perform ks (Desk.vacant s counter) = desk.seen Prod.fst Tagged.channel ∧
        (∀ k, Action.Mirrors (Desk.seen Prod.fst Tagged.channel) id (d.perform k) (plain.perform k)) ∧
        Action.Mirrors (Desk.seen Prod.fst Tagged.channel) id d.device.teardown
          plain.device.teardown) := by
  constructor
  · intro g ks plain d desk
    have seen : d.SeenAs Prod.fst Tagged.channel plain :=
      Gpio.Driver.documented_seenAs (fs.watched_seenAs.lines g)
    have deals : d.device.Deals g.ports :=
      Gpio.Driver.documented_deals (g.claim_claims fs) (g.close_closes fs)
    refine ⟨?_, rfl, ?_, seen.perform, seen.device.teardown⟩
    · exact Desk.settled_of_errands d.perform_eq deals
        (Gpio.Driver.documented_works (g.read_passes fs) (g.write_passes fs)) s counter ks
    · exact Action.runAll_mirrors seen.perform ks (Desk.vacant (s, []) counter)
  · intro chip ks plain d desk
    have seen : d.SeenAs Prod.fst Tagged.channel plain :=
      Pwm.Driver.documented_seenAs (fs.watched_seenAs.channels chip)
    have passes : ∀ verb, chip.ports.Passes ((Pwm.Sysfs.driver fs.watched chip).calls verb) :=
      Pwm.Sysfs.calls_pass fs chip
    have tends : d.Tends (Held chip.ports) :=
      Pwm.Driver.documented_tends (chip.claim_claims fs) passes (chip.close_closes fs)
    have deals : d.device.Deals chip.ports :=
      Pwm.Driver.documented_deals (chip.claim_claims fs) passes (chip.close_closes fs)
    refine ⟨?_, rfl, ?_, seen.perform, seen.device.teardown⟩
    · exact Desk.settled_of_errands d.perform_eq deals tends.works s counter ks
    · exact Action.runAll_mirrors seen.perform ks (Desk.vacant (s, []) counter)

end Peripherals

import Peripherals.Proofs.Desk.Parting
import Peripherals.Proofs.Pwm.Legality
/-!
The end of desks of all three kinds. Main statement: after every run of commands, over any driver and
in whatever order the leases are dismissed, each open channel is closed by one call, a running output
after one call that stops it, and no other call is made. Where calls on channels of different keys do
not matter to each other, all orders leave the same device.
-/

set_option autoImplicit false

namespace Peripherals

open Peripherals.Action (Mirrors)

variable {σ τ S T V C A K : Type}

/-- In whatever order, all leases are dismissed with the calls that are due, and then there are none.
Nothing of this comes from the journal, which is only written. -/
structure Desk.Dissolves (dev : Device (σ × Journal T V) S (Tagged C)) (bare : Device σ S C)
    (due : Tag → List (Act T V)) (d : Desk (σ × Journal T V) S (Tagged C)) : Prop where
  calls : ∀ order, order.Perm d.leases.entries →
    (dev.dismissAll order d.device).answer = .ok () ∧
      ∃ calls, (dev.dismissAll order d.device).state.2 = d.device.2 ++ calls ∧
        Journal.Farewell due d.device.2 calls
  teardown : (dev.teardown d).answer = .ok () ∧ (dev.teardown d).state =
    { d with device := (dev.dismissAll d.leases.entries d.device).state, leases := ∅ }
  unwatched : ∀ order, Mirrors Prod.fst id (dev.dismissAll order)
    (bare.dismissAll (order.map fun e => (e.1, e.2.1, e.2.2.unwatched)))

/-- All orders in which the leases can be dismissed leave a device that looks the same. -/
def Desk.Orderless (dev : Device σ S C) (look : σ → τ) (d : Desk σ S C) : Prop :=
  ∀ order order', order.Perm d.leases.entries → order'.Perm d.leases.entries →
    look (dev.dismissAll order d.device).state = look (dev.dismissAll order' d.device).state

private theorem Desk.Accounted.dissolves {d : Desk (σ × Journal T V) S (Tagged C)} (a : d.Accounted)
    {dev : Device (σ × Journal T V) S (Tagged C)} {bare : Device σ S C}
    (seen : dev.SeenAs Prod.fst Tagged.channel bare) {acts : S → List (Act T V)}
    (parts : dev.Parts acts) {due : Tag → List (Act T V)}
    (owed : ∀ h key lease, d.leases.slots.get? h = some (key, lease) →
      due lease.channel.tag = acts lease.settings) : d.Dissolves dev bare due where
  calls order perm := ⟨dev.dismissAll_ok order d.device, a.farewell parts owed perm⟩
  teardown := ⟨dev.dismissAll_ok d.leases.entries d.device, rfl⟩
  unwatched order := seen.dismissAll order

private theorem Desk.Tended.orderless {d : Desk σ S C} {keyOf : C → UInt32}
    (t : d.Tended (Rooted keyOf))
    {dev : Device σ S C} {look : σ → τ} {calls : List (Action Fault (σ × C) Unit)}
    (i : Independent look keyOf calls) {made : S → List (Action Fault (σ × C) Unit)}
    (sweeps : dev.Sweeps made) (within : ∀ a, ∀ x ∈ made a, x ∈ calls) : d.Orderless dev look := by
  intro order order' perm perm'
  exact i.dismissAll_perm sweeps within (perm.trans perm'.symm) (t.rooted_keys perm) d.device

private theorem Desk.tended_of_errands {P : KeyProperty σ S C} {dev : Device σ S C}
    {granted : Handle → A}
    {done : A} {errand : K → Errand σ S C A} {perform : K → Action Fault (Desk σ S C) A}
    (same : ∀ k, perform k = (errand k).run dev granted done) (tends : dev.Tends P fun _ => True)
    (works : ∀ k h work, errand k = .use h work → Keeps P (fun _ => True) work fun _ _ => True)
    {s : σ} (start : ∀ key, P key s none) (counter : Nat) (ks : List K) :
    (Action.runAll perform ks (vacant s counter)).Tended P := by
  refine Action.runAll_invariant (I := Tended P) (fun k d t => ?_) ks (.vacant start counter)
  have course := (errand k).course dev granted done d
  rw [← same] at course
  exact Desk.Tended.step course tends (fun _ _ => trivial) (works k) t

/-! ### Analog inputs -/

namespace Adc.Driver

variable (d : Adc.Driver σ C)

/-- Channels stay on their pins, and closing one does not matter to the others. -/
structure Independent (look : σ → τ) (keyOf : C → UInt32) : Prop where
  claim : ∀ c s ch, (d.claim c s).answer = .ok ch → keyOf ch = c.pin
  read : ∀ p, keyOf (d.read p).state.2 = keyOf p.2
  closing : Peripherals.Independent look keyOf [d.close]

private theorem sweeps : d.device.Sweeps fun _ => [d.close] := by
  intro h key s lease
  rw [d.device.dismiss_state]
  rfl

variable {d}

private theorem Independent.rooted {look : σ → τ} {keyOf : C → UInt32}
    (i : d.Independent look keyOf) (s : σ)
    (counter : Nat) (ks : List Adc.Command) :
    (Action.runAll d.perform ks (Desk.vacant s counter)).Tended (Rooted keyOf) := by
  have close : Steady (S := Adc.Config) keyOf (Action.zoom Lease.channelLens d.close) :=
    .zoom (i.closing.stays _ List.mem_cons_self)
  refine Desk.tended_of_errands d.perform_eq (Device.tends_rooted i.claim (.pure ()) close) ?_
    (fun _ _ none => nomatch none) counter ks
  intro k h work use
  cases k with
  | value h =>
    cases use
    exact ((Steady.zoom i.read).map _).keeps
  | request c | release h | config h => cases use

end Adc.Driver

/-! ### Digital lines -/

namespace Gpio.Driver

variable (d : Gpio.Driver σ C)

/-- Channels stay on their lines, and closing one does not matter to the others. -/
structure Independent (look : σ → τ) (keyOf : C → UInt32) : Prop where
  claim : ∀ c s ch, (d.claim c s).answer = .ok ch → keyOf ch = c.line
  read : ∀ p, keyOf (d.read p).state.2 = keyOf p.2
  write : ∀ level p, keyOf (d.write level p).state.2 = keyOf p.2
  closing : Peripherals.Independent look keyOf [d.close]

private theorem sweeps : d.device.Sweeps fun _ => [d.close] := by
  intro h key s lease
  rw [d.device.dismiss_state]
  rfl

variable {d}

private theorem Independent.rooted {look : σ → τ} {keyOf : C → UInt32}
    (i : d.Independent look keyOf) (s : σ)
    (counter : Nat) (ks : List Gpio.Command) :
    (Action.runAll d.perform ks (Desk.vacant s counter)).Tended (Rooted keyOf) := by
  have close : Steady (S := Gpio.Config) keyOf (Action.zoom Lease.channelLens d.close) :=
    .zoom (i.closing.stays _ List.mem_cons_self)
  refine Desk.tended_of_errands d.perform_eq (Device.tends_rooted i.claim (.pure ()) close) ?_
    (fun _ _ none => nomatch none) counter ks
  intro k h work use
  cases k with
  | level h =>
    cases use
    exact ((Steady.zoom i.read).map _).keeps
  | drive h b =>
    cases use
    have look_first : Steady (S := Gpio.Config) (σ := σ) keyOf Action.get := fun _ => rfl
    refine (Steady.map (look_first.bind fun p => ?_) _).keeps
    dsimp only
    split
    · exact Steady.zoom (i.write b)
    · exact fun _ => rfl
  | request c | release h | name h | direction h | line h => cases use

end Gpio.Driver

/-! ### Pulse-width outputs -/

namespace Pwm.Driver

variable (d : Pwm.Driver σ C)

/-- Channels stay on their pins, and stopping and closing one does not matter to the others. -/
structure Independent (look : σ → τ) (keyOf : C → UInt32) : Prop where
  claim : ∀ c s ch, (d.claim c s).answer = .ok ch → keyOf ch = c.pin
  calls : ∀ verb p, keyOf (d.calls verb p).state.2 = keyOf p.2
  closing : Peripherals.Independent look keyOf [d.setRunning false, d.close]

/-- The acts that are due to an output, which may be running. -/
def due (running : Bool) : List (Act Pwm.Config Pwm.Verb) :=
  if running then [.use (.setRunning false), .close] else [.close]

/-- Whether an output runs, after the calls that were done. -/
def runsAfter (j : Journal Pwm.Config Pwm.Verb) (tag : Tag) : Bool :=
  (Pwm.replay tag j).any (·.running)

private theorem dismiss_device (h : Handle) (key : UInt32) (s : σ) (lease : Lease Pwm.Signal C) :
    (d.device.dismiss h key (s, lease)).state.1 =
      (d.close (if lease.settings.running then (d.setRunning false (s, lease.channel)).state
        else (s, lease.channel))).state.1 := by
  rw [d.device.dismiss_state]
  change (d.device.close (d.halt (s, lease)).state).state.1 = _
  rw [d.halt_apply]
  by_cases running : lease.settings.running = true
  · rw [if_pos running, if_pos running, d.run_eq_turn, (d.turn_apply _ _).2]
    rfl
  · rw [if_neg running, if_neg running]
    rfl

private theorem watched_parts : d.watched.device.Parts fun s => due s.running := by
  intro h key p lease
  rw [d.watched.dismiss_device]
  cases running : lease.settings.running with
  | true =>
    refine ⟨_, List.append_assoc _ _ _, ?_, fun c member => ?_⟩
    · change _ = due lease.settings.running
      rw [running]
      rfl
    · rcases List.mem_cons.mp member with rfl | member
      · rfl
      · rw [List.mem_singleton.mp member]
  | false =>
    refine ⟨_, rfl, ?_, fun c member => ?_⟩
    · change _ = due lease.settings.running
      rw [running]
      rfl
    · rw [List.mem_singleton.mp member]

private theorem sweeps : d.device.Sweeps fun s =>
    if s.running then [d.setRunning false, d.close] else [d.close] := by
  intro h key s lease
  rw [d.dismiss_device]
  dsimp only
  cases lease.settings.running with
  | true => rfl
  | false => rfl

private theorem watched_followed (s : σ) (counter : Nat) (ks : List Pwm.Command) :
    (Action.runAll d.watched.perform ks (Desk.vacant (s, []) counter)).Tended
      (Pwm.Followed Pwm.AtRest) := by
  have tends : d.watched.Tends (Pwm.Followed Pwm.AtRest) := d.watched_tends fun _ _ rest => rest
  have start (pin : UInt32) : Pwm.Followed Pwm.AtRest pin (s, [])
      (none : Option (Lease Pwm.Signal (Tagged C))) := Pwm.legal_nil
  exact tends.runAll start counter ks

variable {d}

private theorem Independent.tends {look : σ → τ} {keyOf : C → UInt32} (i : d.Independent look keyOf) :
    d.Tends (Rooted keyOf) where
  claim_others _ _ _ _ _ _ _ was := was
  claim_error _ _ _ _ _ _ _ none := nomatch none
  claim_ok c s ch _ _ claimed lease same := by
    obtain rfl := Option.some.inj same
    exact i.claim c s ch claimed
  turn verb pin p rooted _ := by
    refine ⟨fun lease same => ?_, fun _ _ _ was => was⟩
    obtain rfl := Option.some.inj same
    rw [(d.turn_apply verb p).2]
    exact (i.calls verb _).trans (rooted _ rfl)
  close_others _ _ _ _ _ _ _ _ was := was
  close_error _ s lease _ rooted _ _ lease' same := by
    obtain rfl := Option.some.inj same
    have stays := i.closing.stays d.close (List.mem_cons_of_mem _ List.mem_cons_self)
    exact (stays (s, lease.channel)).trans (rooted _ rfl)
  close_ok _ _ _ _ _ _ _ none := nomatch none

end Pwm.Driver

private theorem Pwm.Outputs.driver_independent : Pwm.Outputs.driver.Independent Pwm.Outputs.output? id where
  claim _ _ _ claimed := (Except.ok.inj claimed).symm
  calls verb p := (Pwm.Outputs.driver_honest.does verb).pin_eq p
  closing := by
    refine .of_local fun x member => ?_
    rcases List.mem_cons.mp member with rfl | member
    · refine ⟨Option.map fun o => { o with running := false }, fun s pin => ?_⟩
      change (Pwm.Outputs.update _ (s, pin)).state.2 = pin ∧
        ∀ j, (Pwm.Outputs.update _ (s, pin)).state.1.output? j = _
      rw [Pwm.Outputs.update_apply]
      cases h : s.output? pin with
      | none =>
        refine ⟨rfl, fun j => ?_⟩
        by_cases here : j = pin
        · rw [if_pos here, here]
          exact h
        · rw [if_neg here]
      | some o => exact ⟨rfl, fun j => Assoc.get?_put _ _ _ _⟩
    · obtain rfl := List.mem_singleton.mp member
      exact ⟨fun _ => none, fun s pin => ⟨rfl, fun j => Assoc.get?_erase _ _ _⟩⟩

/-- Over every driver and after every run of commands, failed ones included, the end of a desk closes
each open channel with one call, a running output after one call that stops it, and calls no other
channel, in whatever order its leases are dismissed and whatever calls fail. Where calls on channels
of different keys do not matter to each other, the device looks the same after every order. -/
theorem teardown_visits_each_channel_once :
    (∀ {σ C : Type} (d : Adc.Driver σ C) (s : σ) (counter : Nat) (ks : List Adc.Command),
      let watched := Action.runAll d.watched.perform ks (Desk.vacant (s, []) counter)
      let desk := Action.runAll d.perform ks (Desk.vacant s counter)
      desk = watched.unwatched ∧ watched.Dissolves d.watched.device d.device (fun _ => [.close]) ∧
        ∀ {τ : Type} (look : σ → τ) (keyOf : C → UInt32), d.Independent look keyOf →
          desk.Orderless d.device look) ∧
    (∀ {σ C : Type} (d : Gpio.Driver σ C) (s : σ) (counter : Nat) (ks : List Gpio.Command),
      let watched := Action.runAll d.watched.perform ks (Desk.vacant (s, []) counter)
      let desk := Action.runAll d.perform ks (Desk.vacant s counter)
      desk = watched.unwatched ∧ watched.Dissolves d.watched.device d.device (fun _ => [.close]) ∧
        ∀ {τ : Type} (look : σ → τ) (keyOf : C → UInt32), d.Independent look keyOf →
          desk.Orderless d.device look) ∧
    (∀ {σ C : Type} (d : Pwm.Driver σ C) (s : σ) (counter : Nat) (ks : List Pwm.Command),
      let watched := Action.runAll d.watched.perform ks (Desk.vacant (s, []) counter)
      let desk := Action.runAll d.perform ks (Desk.vacant s counter)
      desk = watched.unwatched ∧ watched.Dissolves d.watched.device d.device
          (fun tag => Pwm.Driver.due (Pwm.Driver.runsAfter watched.device.2 tag)) ∧
        ∀ {τ : Type} (look : σ → τ) (keyOf : C → UInt32), d.Independent look keyOf →
          desk.Orderless d.device look) := by
  refine ⟨fun d s counter ks => ⟨?_, ?_, fun look keyOf i => ?_⟩,
    fun d s counter ks => ⟨?_, ?_, fun look keyOf i => ?_⟩,
    fun d s counter ks => ⟨?_, ?_, fun look keyOf i => ?_⟩⟩
  · exact Action.runAll_mirrors d.perform_watched ks (Desk.vacant (s, []) counter)
  · have a := Desk.accounted_of_errands d.watched.perform_eq d.watched_observed d.watched_works s
      counter ks
    exact a.dissolves d.watched_seenAs.device (.of_still d.watched_observed fun _ => rfl)
      fun _ _ _ _ => rfl
  · exact (i.rooted s counter ks).orderless i.closing d.sweeps fun _ _ member => member
  · exact Action.runAll_mirrors d.perform_watched ks (Desk.vacant (s, []) counter)
  · have a := Desk.accounted_of_errands d.watched.perform_eq d.watched_observed d.watched_works s
      counter ks
    exact a.dissolves d.watched_seenAs.device (.of_still d.watched_observed fun _ => rfl)
      fun _ _ _ _ => rfl
  · exact (i.rooted s counter ks).orderless i.closing d.sweeps fun _ _ member => member
  · exact Action.runAll_mirrors d.perform_watched ks (Desk.vacant (s, []) counter)
  · have a := Desk.accounted_of_errands d.watched.perform_eq d.watched_observed d.watched_works s
      counter ks
    have followed := d.watched_followed s counter ks
    refine a.dissolves d.watched_seenAs.device d.watched_parts fun h pin lease live => ?_
    have output := (followed.live live).2.2.1
    exact congrArg (fun o : Option Pwm.Output => Pwm.Driver.due (o.any (·.running))) output
  · refine (i.tends.runAll (fun _ _ none => nomatch none) counter ks).orderless i.closing d.sweeps ?_
    intro a x member
    split at member
    · exact member
    · exact List.mem_cons_of_mem _ member

/-- Two simulated outputs, one of which runs, are left the same by both orders. -/
theorem two_outputs_in_either_order :
    let d := Pwm.Outputs.driver
    let desk := Action.runAll d.perform
      [.request (.ofPin 3 100 40), .request (.ofPin 5 80 20), .enable ⟨2⟩] (Desk.vacant {} 1)
    (desk.leases.get? ⟨1⟩).map (·.settings.running) = some false ∧
      (desk.leases.get? ⟨2⟩).map (·.settings.running) = some true ∧
      (d.device.dismissAll desk.leases.entries desk.device).state.output? =
        (d.device.dismissAll desk.leases.entries.reverse desk.device).state.output? := by
  intro d desk
  refine ⟨by decide +kernel, by decide +kernel, ?_⟩
  have orderless := (teardown_visits_each_channel_once.2.2 d {} 1 [.request (.ofPin 3 100 40),
    .request (.ofPin 5 80 20), .enable ⟨2⟩]).2.2 Pwm.Outputs.output? id Pwm.Outputs.driver_independent
  exact orderless _ _ (List.Perm.refl _) (List.reverse_perm _)

end Peripherals

import Peripherals.Proofs.Pwm.Use
import Peripherals.Pwm.Simulated
/-!
The record of a desk of pulse-width outputs beside the outputs themselves. A device is honest if a
call that fails changes no signal and a call that is done changes just what it is for. Main
statement: over an honest device the record of every leased output is the signal of the output, after
every run, wherever calls fail.
-/

set_option autoImplicit false

namespace Peripherals.Pwm

variable {σ C : Type}

def Signal.output (s : Signal) : Output :=
  ⟨s.config.period, s.config.duty, s.config.polarity, s.running⟩

def Verb.effect : Verb → Output → Output
  | .setRunning on => fun o => { o with running := on }
  | .setPeriod period => fun o => { o with period }
  | .setDuty duty => fun o => { o with duty }
  | .setPolarity polarity => fun o => { o with polarity }

theorem Verb.output_note (verb : Verb) (s : Signal) :
    (verb.note s).output = verb.effect s.output := by
  cases verb <;> rfl

/-! ### Honest devices -/

/-- How a device is looked at: the pin of a channel, and the signal of its output. -/
structure View (σ C : Type) where
  pin : C → UInt32
  output? : σ → C → Option Output

namespace View

variable (v : View σ C)

/-- A call that leaves the outputs of other pins alone, and its own output too if it fails. -/
structure Confines (x : Action Fault (σ × C) Unit) : Prop where
  pin_eq : ∀ p, v.pin (x p).state.2 = v.pin p.2
  others : ∀ p c, v.pin c ≠ v.pin p.2 → v.output? (x p).state.1 c = v.output? p.1 c
  failed : ∀ p f, (x p).answer = .error f →
    v.output? (x p).state.1 (x p).state.2 = v.output? p.1 p.2

/-- A call that does just this to the signal of its output. -/
structure Does (x : Action Fault (σ × C) Unit) (effect : Output → Output) : Prop
    extends v.Confines x where
  done : ∀ p, (x p).answer = .ok () →
    v.output? (x p).state.1 (x p).state.2 = (v.output? p.1 p.2).map effect

end View

/-- Failed calls change no signal, opening sets the signal of the configuration and leaves the output
at rest, and every verb changes its own part of one signal. -/
structure Driver.Honest (d : Driver σ C) (v : View σ C) : Prop where
  claim_others : ∀ c s ch, v.pin ch ≠ c.pin → v.output? (d.claim c s).state ch = v.output? s ch
  claim_failed : ∀ c s f, (d.claim c s).answer = .error f →
    ∀ ch, v.output? (d.claim c s).state ch = v.output? s ch
  claim_done : ∀ c s ch, (d.claim c s).answer = .ok ch → v.pin ch = c.pin ∧
    v.output? (d.claim c s).state ch = some ⟨c.period, c.duty, c.polarity, false⟩
  does : ∀ verb, v.Does (d.calls verb) verb.effect
  close : v.Confines d.close

/-- An output goes when its channel is closed. -/
def Driver.Clears (d : Driver σ C) (v : View σ C) : Prop :=
  ∀ p, (d.close p).answer = .ok () →
    ∀ ch, v.pin ch = v.pin p.2 → v.output? (d.close p).state.1 ch = none

/-! ### The record -/

section Record

variable {d : Driver σ C} {v : View σ C} {bare : Option Output → Prop}

/-- The record of a lease is the signal of its output, and the output of a pin without a lease is
`bare`. -/
def Shown (v : View σ C) (bare : Option Output → Prop) : KeyProperty σ Signal C
  | pin, s, some lease =>
    v.pin lease.channel = pin ∧ v.output? s lease.channel = some lease.settings.output
  | pin, s, none => ∀ ch, v.pin ch = pin → bare (v.output? s ch)

private theorem Shown.of_same {pin : UInt32} {s s' : σ} {l : Option (Lease Signal C)}
    (shown : Shown v bare pin s l)
    (same : ∀ ch, v.pin ch = pin → v.output? s' ch = v.output? s ch) : Shown v bare pin s' l := by
  cases l with
  | some lease =>
    obtain ⟨at_pin, output⟩ := shown
    exact ⟨at_pin, (same _ at_pin).trans output⟩
  | none =>
    intro ch at_pin
    rw [same ch at_pin]
    exact shown ch at_pin

private theorem View.Confines.others_shown {x : Action Fault (σ × C) Unit} (confines : v.Confines x)
    {s : σ} {c : C} {other : UInt32} {l : Option (Lease Signal C)} (differs : other ≠ v.pin c)
    (shown : Shown v bare other s l) : Shown v bare other (x (s, c)).state.1 l := by
  refine shown.of_same fun ch at_other => confines.others (s, c) ch ?_
  rw [at_other]
  exact differs

/-- Over an honest device every call keeps the record true. -/
theorem Driver.Honest.tends (honest : d.Honest v)
    (cleared : ∀ p, (d.close p).answer = .ok () →
      ∀ ch, v.pin ch = v.pin p.2 → bare (v.output? (d.close p).state.1 ch)) :
    d.Tends (Shown v bare) where
  claim_others c s _ _ key l differs shown :=
    shown.of_same fun ch at_key => honest.claim_others c s ch (at_key ▸ differs)
  claim_error c s f _ shown failed :=
    shown.of_same fun ch _ => honest.claim_failed c s f failed ch
  claim_ok c s ch _ _ claimed := honest.claim_done c s ch claimed
  turn verb pin p shown _ := by
    obtain ⟨at_pin, output⟩ := shown
    have does := honest.does verb
    have own_pin := (does.pin_eq (p.1, p.2.channel)).trans at_pin
    rw [(d.turn_apply verb p).2]
    refine ⟨⟨own_pin, ?_⟩, fun other l differs => does.others_shown (at_pin ▸ differs)⟩
    cases h : (d.calls verb (p.1, p.2.channel)).answer with
    | error f => exact (does.failed _ f h).trans output
    | ok u =>
      change v.output? _ _ = some (verb.note p.2.settings).output
      rw [does.done _ h, output, verb.output_note]
      rfl
  close_others _ _ _ shown _ _ _ differs := honest.close.others_shown (shown.1 ▸ differs)
  close_error _ _ lease f shown _ failed :=
    ⟨(honest.close.pin_eq _).trans shown.1, (honest.close.failed _ f failed).trans shown.2⟩
  close_ok _ s lease shown _ closed := by
    intro ch at_pin
    exact cleared (s, lease.channel) closed ch (at_pin.trans shown.1.symm)

/-- Asked for the record under a handle, the desk answers with the signal of the output. -/
def Told (d : Driver σ C) (v : View σ C) (desk : Desk σ Signal C) (h : Handle) (ch : C) : Prop :=
  ∃ c on, (d.perform (.config h) desk).answer = .ok (.config c) ∧
    (d.perform (.isEnabled h) desk).answer = .ok (.enabled on) ∧
    v.output? desk.device ch = some ⟨c.period, c.duty, c.polarity, on⟩

private theorem told_of_tended {desk : Desk σ Signal C} (tended : desk.Tended (Shown v bare))
    {h : Handle}
    {lease : Lease Signal C} (live : desk.leases.get? h = some lease) :
    Told d v desk h lease.channel := by
  obtain ⟨pin, slot⟩ := HandleTable.get?_eq_some_iff.mp live
  obtain ⟨_, output⟩ := tended.live slot
  obtain ⟨config, enabled⟩ := d.perform_look live
  exact ⟨lease.settings.config, lease.settings.running, config, enabled, output⟩

private theorem output_eq_none_iff {desk : Desk σ Signal C}
    (tended : desk.Tended (Shown v fun o => o = none)) (pin : UInt32) :
    (∀ ch, v.pin ch = pin → v.output? desk.device ch = none) ↔
      desk.leases.containsKey pin = false := by
  constructor
  · intro no_output
    by_contra leased
    rw [Bool.not_eq_false, tended.sound.containsKey_iff] at leased
    obtain ⟨h, lease, slot⟩ := leased
    obtain ⟨at_pin, output⟩ := tended.live slot
    rw [no_output _ at_pin] at output
    cases output
  · exact fun free => tended.free free

end Record

/-! ### Calls that fail -/

section Stumbling

/-- Fails with no effect where the script says so, and at the end of the script no more. -/
def stumble {τ A : Type} (f : Fault) (x : Action Fault τ A) : Action Fault (τ × List Bool) A :=
  fun p =>
    if p.2.headD false then ⟨.error f, [], (p.1, p.2.tail)⟩
    else ⟨(x p.1).answer, (x p.1).events, ((x p.1).state, p.2.tail)⟩

def scriptLens : Lens ((σ × List Bool) × C) ((σ × C) × List Bool) where
  get p := ((p.1.1, p.2), p.1.2)
  set q _ := ((q.1.1, q.2), q.1.2)

/-- A device any call to which fails if its script says so. -/
def Driver.stumbling (d : Driver σ C) (f : Fault) : Driver (σ × List Bool) C where
  name := d.name
  claim c := stumble f (d.claim c)
  setRunning on := Action.zoom scriptLens (stumble f (d.setRunning on))
  setPeriod period := Action.zoom scriptLens (stumble f (d.setPeriod period))
  setDuty duty := Action.zoom scriptLens (stumble f (d.setDuty duty))
  setPolarity polarity := Action.zoom scriptLens (stumble f (d.setPolarity polarity))
  close := Action.zoom scriptLens (stumble f d.close)

def View.scripted (v : View σ C) : View (σ × List Bool) C :=
  ⟨v.pin, fun s => v.output? s.1⟩

variable {d : Driver σ C} {v : View σ C} {x : Action Fault (σ × C) Unit}

private theorem stumble_cases {τ A : Type} (f : Fault) (x : Action Fault τ A) (p : τ × List Bool) :
    ((stumble f x p).answer = .error f ∧ (stumble f x p).state.1 = p.1) ∨
      ((stumble f x p).answer = (x p.1).answer ∧ (stumble f x p).state.1 = (x p.1).state) := by
  unfold stumble
  split
  · exact .inl ⟨rfl, rfl⟩
  · exact .inr ⟨rfl, rfl⟩

private theorem View.Confines.stumbling (confines : v.Confines x) (f : Fault) :
    v.scripted.Confines (Action.zoom scriptLens (stumble f x)) where
  pin_eq p := by
    change v.pin (stumble f x (scriptLens.get p)).state.1.2 = v.pin p.2
    rcases stumble_cases f x (scriptLens.get p) with ⟨_, state⟩ | ⟨_, state⟩
    · rw [state]
      rfl
    · rw [state]
      exact confines.pin_eq (p.1.1, p.2)
  others p c differs := by
    change v.output? (stumble f x (scriptLens.get p)).state.1.1 c = v.output? p.1.1 c
    rcases stumble_cases f x (scriptLens.get p) with ⟨_, state⟩ | ⟨_, state⟩
    · rw [state]
      rfl
    · rw [state]
      exact confines.others (p.1.1, p.2) c differs
  failed p g failed := by
    change v.output? (stumble f x (scriptLens.get p)).state.1.1
      (stumble f x (scriptLens.get p)).state.1.2 = v.output? p.1.1 p.2
    rcases stumble_cases f x (scriptLens.get p) with ⟨_, state⟩ | ⟨answer, state⟩
    · rw [state]
      rfl
    · rw [state]
      exact confines.failed (p.1.1, p.2) g (answer.symm.trans failed)

private theorem View.Does.stumbling {effect : Output → Output} (does : v.Does x effect) (f : Fault) :
    v.scripted.Does (Action.zoom scriptLens (stumble f x)) effect where
  toConfines := does.toConfines.stumbling f
  done p done := by
    change v.output? (stumble f x (scriptLens.get p)).state.1.1
      (stumble f x (scriptLens.get p)).state.1.2 = (v.output? p.1.1 p.2).map effect
    change (stumble f x (scriptLens.get p)).answer = _ at done
    rcases stumble_cases f x (scriptLens.get p) with ⟨answer, _⟩ | ⟨answer, state⟩
    · rw [answer] at done
      cases done
    · rw [state]
      exact does.done (p.1.1, p.2) (answer.symm.trans done)

private theorem Driver.Honest.stumbling (honest : d.Honest v) (f : Fault) :
    (d.stumbling f).Honest v.scripted where
  claim_others c p ch differs := by
    change v.output? (stumble f (d.claim c) p).state.1 ch = v.output? p.1 ch
    rcases stumble_cases f (d.claim c) p with ⟨_, state⟩ | ⟨_, state⟩
    · rw [state]
    · rw [state]
      exact honest.claim_others c p.1 ch differs
  claim_failed c p g failed ch := by
    change v.output? (stumble f (d.claim c) p).state.1 ch = v.output? p.1 ch
    rcases stumble_cases f (d.claim c) p with ⟨_, state⟩ | ⟨answer, state⟩
    · rw [state]
    · rw [state]
      exact honest.claim_failed c p.1 g (answer.symm.trans failed) ch
  claim_done c p ch done := by
    change v.pin ch = c.pin ∧ v.output? (stumble f (d.claim c) p).state.1 ch = _
    change (stumble f (d.claim c) p).answer = _ at done
    rcases stumble_cases f (d.claim c) p with ⟨answer, _⟩ | ⟨answer, state⟩
    · rw [answer] at done
      cases done
    · rw [state]
      exact honest.claim_done c p.1 ch (answer.symm.trans done)
  does verb := by
    have does := (honest.does verb).stumbling f
    cases verb <;> exact does
  close := honest.close.stumbling f

private theorem Driver.Clears.stumbling (clears : d.Clears v) (f : Fault) :
    (d.stumbling f).Clears v.scripted := by
  intro p closed ch at_pin
  change v.output? (stumble f d.close (scriptLens.get p)).state.1.1 ch = none
  change (stumble f d.close (scriptLens.get p)).answer = _ at closed
  rcases stumble_cases f d.close (scriptLens.get p) with ⟨answer, _⟩ | ⟨answer, state⟩
  · rw [answer] at closed
    cases closed
  · rw [state]
    exact clears (p.1.1, p.2) (answer.symm.trans closed) ch at_pin

end Stumbling

/-! ### Simulated outputs -/

namespace Outputs

def view : View Outputs UInt32 :=
  ⟨id, output?⟩

theorem update_apply (f : Output → Output) (o : Outputs) (pin : UInt32) :
    update f (o, pin) = match o.output? pin with
      | some x => ⟨.ok (), [], (⟨o.channels.put pin (f x)⟩, pin)⟩
      | none => ⟨.error (.deviceNotFound (path pin)), [], (o, pin)⟩ := by
  simp only [update, Action.bind_apply, Action.get_apply]
  cases o.output? pin <;> rfl

private theorem update_does (f : Output → Output) : view.Does (update f) f := by
  refine ⟨⟨?_, ?_, ?_⟩, ?_⟩
  · rintro ⟨o, pin⟩
    rw [update_apply]
    cases o.output? pin <;> rfl
  · rintro ⟨o, pin⟩ other differs
    rw [update_apply]
    cases o.output? pin with
    | none => rfl
    | some x => exact Assoc.get?_put_of_ne _ _ differs
  · rintro ⟨o, pin⟩ fault failed
    rw [update_apply] at failed ⊢
    cases h : o.output? pin with
    | none => rfl
    | some x =>
      rw [h] at failed
      cases failed
  · rintro ⟨o, pin⟩ done
    rw [update_apply] at done ⊢
    cases h : o.output? pin with
    | none =>
      rw [h] at done
      cases done
    | some x =>
      change (o.channels.put pin (f x)).get? pin = (o.output? pin).map f
      rw [h, Assoc.get?_put_self]
      rfl

theorem driver_honest : driver.Honest view where
  claim_others c o pin differs := Assoc.get?_put_of_ne _ _ differs
  claim_failed c o f failed := nomatch failed
  claim_done c o pin done := by
    obtain rfl := Except.ok.inj done
    exact ⟨rfl, Assoc.get?_put_self _ _ _⟩
  does verb := by cases verb <;> exact update_does _
  close := {
    pin_eq := fun _ => rfl
    others := fun p pin differs => Assoc.get?_erase_of_ne _ differs
    failed := fun p f failed => nomatch failed }

theorem driver_clears : driver.Clears view := by
  rintro ⟨o, pin⟩ _ other rfl
  exact Assoc.get?_erase_self _ _

end Outputs

/-- Over every device whose failed calls change nothing, and after every run of commands, failed ones
included, the desk answers for every live handle with the signal that the device has. Simulated
outputs, any call to which may fail, have a signal for the leased pins and for no other. -/
theorem record_matches_device :
    (∀ {σ C : Type} (d : Driver σ C) (v : View σ C), d.Honest v →
      ∀ (s : σ) (counter : Nat) (ks : List Command),
        let desk := Action.runAll d.perform ks (Desk.vacant s counter)
        ∀ h lease, desk.leases.get? h = some lease → Told d v desk h lease.channel) ∧
    (∀ (counter : Nat) (ks : List Command),
      let desk := Action.runAll Outputs.driver.perform ks (Desk.vacant {} counter)
      (∀ h pin, desk.leases.keyOf? h = some pin → Told Outputs.driver Outputs.view desk h pin) ∧
        ∀ pin, desk.device.output? pin = none ↔ desk.leases.containsKey pin = false) ∧
    ∀ (f : Fault) (script : List Bool) (counter : Nat) (ks : List Command),
      let d := Outputs.driver.stumbling f
      let desk := Action.runAll d.perform ks (Desk.vacant ({}, script) counter)
      (∀ h pin, desk.leases.keyOf? h = some pin → Told d Outputs.view.scripted desk h pin) ∧
        ∀ pin, desk.device.1.output? pin = none ↔ desk.leases.containsKey pin = false := by
  have by_pin {σ : Type} {d : Driver σ UInt32} {v : View σ UInt32} (own : v.pin = id)
      {desk : Desk σ Signal UInt32} (tended : desk.Tended (Shown v fun o => o = none)) :
      (∀ h pin, desk.leases.keyOf? h = some pin → Told d v desk h pin) ∧
        ∀ pin, v.output? desk.device pin = none ↔ desk.leases.containsKey pin = false := by
    constructor
    · intro h pin key
      obtain ⟨lease, slot⟩ := HandleTable.keyOf?_eq_some_iff.mp key
      have at_pin := (tended.live slot).1
      rw [own] at at_pin
      have told := told_of_tended (d := d) tended (HandleTable.get?_eq_some_iff.mpr ⟨pin, slot⟩)
      rwa [show lease.channel = pin from at_pin] at told
    · intro pin
      rw [← output_eq_none_iff tended]
      simp [own]
  refine ⟨fun d v honest s counter ks => ?_, fun counter ks => ?_, fun f script counter ks => ?_⟩
  · intro desk h lease live
    have tends : d.Tends (Shown v fun _ => True) := honest.tends fun _ _ _ _ => trivial
    exact told_of_tended (tends.runAll (fun _ _ _ => trivial) counter ks) live
  · have tends : Outputs.driver.Tends (Shown Outputs.view fun o => o = none) :=
      Outputs.driver_honest.tends Outputs.driver_clears
    exact by_pin rfl (tends.runAll (fun _ _ _ => rfl) counter ks)
  · have tends : (Outputs.driver.stumbling f).Tends (Shown Outputs.view.scripted fun o => o = none) :=
      (Outputs.driver_honest.stumbling f).tends (Outputs.driver_clears.stumbling f)
    exact by_pin rfl (tends.runAll (fun _ _ _ => rfl) counter ks)

/-- A change of polarity that fails between its stop and its start leaves the output at rest, and the
record says so. -/
theorem record_after_half_a_change :
    let d := Outputs.driver.stumbling (.notSupported "no reply")
    let desk := Action.runAll d.perform
      [.request (.ofPin 3 100 40), .enable ⟨1⟩, .setPolarity ⟨1⟩ .inversed]
      (Desk.vacant ({}, [false, false, false, true]) 1)
    d.Honest Outputs.view.scripted ∧
      (∃ lease, desk.leases.get? ⟨1⟩ = some lease ∧
        Told d Outputs.view.scripted desk ⟨1⟩ lease.channel) ∧
      desk.device.1.output? 3 = some ⟨100, 40, .normal, false⟩ := by
  intro d desk
  have honest : d.Honest Outputs.view.scripted := Outputs.driver_honest.stumbling _
  have live : (desk.leases.get? ⟨1⟩).isSome = true := by decide +kernel
  obtain ⟨lease, found⟩ := Option.isSome_iff_exists.mp live
  have told := record_matches_device.1 d _ honest _ _ _ ⟨1⟩ lease found
  exact ⟨honest, ⟨lease, found, told⟩, by decide +kernel⟩

end Peripherals.Pwm

import Peripherals.Proofs.Pwm.Record
/-!
Changes of an output that fail. A device is obedient if it starts and stops every output when it is
told to. Main statement: over an honest and obedient device a change that fails leaves all records and
all signals as they were, unless it is a change of polarity of a running output. Such an output is left
at rest, and all else is as it was.
-/

set_option autoImplicit false

namespace Peripherals.Pwm

variable {σ C : Type}

/-- The handle of the output that a command is to change. -/
def Command.changed? : Command → Option Handle
  | .enable h | .disable h | .setPeriod h _ | .setDuty h _ | .setPolarity h _ => some h
  | .request _ | .release _ | .config _ | .isEnabled _ => none

/-- What a failure of the command makes of the record of its output. -/
def Command.setback : Command → Signal → Signal
  | .setPolarity _ _ => fun s => { s with running := false }
  | _ => id

private theorem Command.setback_eq_self (k : Command) {s : Signal}
    (rests : ∀ h polarity, k = .setPolarity h polarity → s.running = false) : k.setback s = s := by
  cases k with
  | setPolarity h polarity =>
    change { s with running := false } = s
    rw [← rests h polarity rfl]
  | request c | release h | enable h | disable h | setPeriod h period | setDuty h duty | config h
    | isEnabled h => rfl

/-- The device starts and stops every output that is there. -/
def Driver.Obedient (d : Driver σ C) (v : View σ C) : Prop :=
  ∀ on s ch o, v.output? s ch = some o → (d.setRunning on (s, ch)).answer = .ok ()

/-! ### Work on one output -/

/-- Work on an output changed its record in this way, and left the outputs of other pins alone. -/
structure Moved (v : View σ C) (change : Signal → Signal) (p p' : σ × Lease Signal C) : Prop where
  settings : p'.2.settings = change p.2.settings
  pin : v.pin p'.2.channel = v.pin p.2.channel
  others : ∀ ch, v.pin ch ≠ v.pin p.2.channel → v.output? p'.1 ch = v.output? p.1 ch

namespace Moved

variable {v : View σ C} {change change' : Signal → Signal} {p p' p'' : σ × Lease Signal C}

private theorem refl : Moved v id p p :=
  ⟨rfl, rfl, fun _ _ => rfl⟩

theorem trans (first : Moved v change p p') (second : Moved v change' p' p'') :
    Moved v (change' ∘ change) p p'' where
  settings := by
    rw [second.settings, first.settings]
    rfl
  pin := second.pin.trans first.pin
  others ch differs := by
    have differs' : v.pin ch ≠ v.pin p'.2.channel := by
      rw [first.pin]
      exact differs
    rw [second.others ch differs', first.others ch differs]

theorem congr (moved : Moved v change p p') (same : change p.2.settings = change' p.2.settings) :
    Moved v change' p p' :=
  ⟨moved.settings.trans same, moved.pin, moved.others⟩

end Moved

namespace Driver

variable {d : Driver σ C} {v : View σ C} {p : σ × Lease Signal C}

theorem recorded_bind {α : Type} (f : Signal → Action Fault (σ × Lease Signal C) α) :
    (recorded >>= f) p = f p.2.settings p := rfl

private theorem Honest.turn_moved (honest : d.Honest v) (verb : Verb) (p : σ × Lease Signal C) :
    Moved v (if (d.turn verb p).answer.isOk then verb.note else id) p (d.turn verb p).state := by
  obtain ⟨answer, state⟩ := d.turn_apply verb p
  have does := honest.does verb
  refine ⟨?_, ?_, fun ch differs => ?_⟩
  · rw [state, answer]
    split
    · rfl
    · rfl
  · rw [state]
    exact does.pin_eq (p.1, p.2.channel)
  · rw [state]
    exact does.others (p.1, p.2.channel) ch differs

private theorem Honest.turn_failed (honest : d.Honest v) {verb : Verb} {f : Fault}
    (failed : (d.turn verb p).answer = .error f) : Moved v id p (d.turn verb p).state := by
  have moved := honest.turn_moved verb p
  rw [failed] at moved
  exact moved

private theorem Honest.turn_shown (honest : d.Honest v) {verb : Verb} {o : Output}
    (done : (d.turn verb p).answer = .ok ()) (shown : v.output? p.1 p.2.channel = some o) :
    v.output? (d.turn verb p).state.1 (d.turn verb p).state.2.channel = some (verb.effect o) := by
  obtain ⟨answer, state⟩ := d.turn_apply verb p
  rw [answer] at done
  have effect := (honest.does verb).done (p.1, p.2.channel) done
  rw [shown] at effect
  rw [state]
  exact effect

theorem Honest.turn_obeyed (honest : d.Honest v) {verb : Verb} {o : Output}
    (obeyed : (d.calls verb (p.1, p.2.channel)).answer = .ok ())
    (shown : v.output? p.1 p.2.channel = some o) :
    (d.turn verb p).answer = .ok () ∧ Moved v verb.note p (d.turn verb p).state ∧
      v.output? (d.turn verb p).state.1 (d.turn verb p).state.2.channel = some (verb.effect o) := by
  have done : (d.turn verb p).answer = .ok () := (d.turn_apply verb p).1.trans obeyed
  have moved := honest.turn_moved verb p
  rw [done] at moved
  exact ⟨done, moved, honest.turn_shown done shown⟩

private theorem Honest.turn_run (honest : d.Honest v) (obeys : d.Obedient v) (on : Bool) {o : Output}
    (shown : v.output? p.1 p.2.channel = some o) :
    (d.turn (.setRunning on) p).answer = .ok () ∧
      Moved v (Verb.note (.setRunning on)) p (d.turn (.setRunning on) p).state ∧
      v.output? (d.turn (.setRunning on) p).state.1 (d.turn (.setRunning on) p).state.2.channel =
        some { o with running := on } :=
  honest.turn_obeyed (obeys on p.1 p.2.channel o shown) shown

private theorem Honest.changePolarity_failed (honest : d.Honest v) (obeys : d.Obedient v)
    {polarity : Polarity} {o : Output} (shown : v.output? p.1 p.2.channel = some o) {f : Fault}
    (failed : (d.changePolarity polarity p).answer = .error f) :
    Moved v (fun s => { s with running := false }) p (d.changePolarity polarity p).state := by
  rw [changePolarity_eq_turn, recorded_bind] at failed ⊢
  cases running : p.2.settings.running with
  | false =>
    simp only [running, Bool.false_eq_true, if_false, pure_bind, bind_pure_unit] at failed ⊢
    refine (honest.turn_failed failed).congr ?_
    change p.2.settings = { p.2.settings with running := false }
    rw [← running]
  | true =>
    simp only [running, if_true] at failed ⊢
    obtain ⟨stopped, moved, rests⟩ := honest.turn_run obeys false shown
    obtain ⟨answer, state⟩ := Action.bind_ok (f := fun _ => d.turn (.setPolarity polarity) >>= fun _ =>
      d.turn (.setRunning true)) stopped
    rw [answer] at failed
    rw [state]
    cases set : (d.turn (.setPolarity polarity) (d.turn (.setRunning false) p).state).answer with
    | error e =>
      obtain ⟨_, state⟩ := Action.bind_error (fun _ => d.turn (.setRunning true)) set
      rw [state]
      exact moved.trans (honest.turn_failed set)
    | ok u =>
      have still := honest.turn_shown set rests
      have restarted := (honest.turn_run obeys true still).1
      obtain ⟨answer, _⟩ := Action.bind_ok (f := fun _ => d.turn (.setRunning true)) set
      rw [answer, restarted] at failed
      cases failed

private theorem Honest.checked_failed (honest : d.Honest v) {check : Except Fault Unit} {verb : Verb}
    {f : Fault} (failed : ((Action.ofExcept check >>= fun _ => d.turn verb) p).answer = .error f) :
    Moved v id p ((Action.ofExcept check >>= fun _ => d.turn verb) p).state := by
  cases check with
  | error e => exact .refl
  | ok u => exact honest.turn_failed failed

private theorem map_failed {x : Action Fault (σ × Lease Signal C) Unit} {a : Answer} {f : Fault}
    (failed : (((fun _ => a) <$> x) p).answer = .error f) :
    (x p).answer = .error f ∧ (((fun _ => a) <$> x) p).state = (x p).state := by
  rw [Action.map_apply] at failed ⊢
  cases answer : (x p).answer with
  | error e =>
    rw [answer] at failed
    obtain rfl : e = f := Except.error.inj failed
    exact ⟨rfl, rfl⟩
  | ok u =>
    rw [answer] at failed
    cases failed

/-- The work of every change that fails. -/
private theorem Honest.change_failed (honest : d.Honest v) (obeys : d.Obedient v) {k : Command}
    {h : Handle} {work : Action Fault (σ × Lease Signal C) Answer} (change : k.changed? = some h)
    (use : d.errand k = .use h work) {o : Output} (shown : v.output? p.1 p.2.channel = some o)
    {f : Fault} (failed : (work p).answer = .error f) : Moved v k.setback p (work p).state := by
  cases k with
  | request c | release h | config h | isEnabled h => cases change
  | enable h =>
    cases use
    obtain ⟨failed, _⟩ := map_failed failed
    rw [run_eq_turn, (honest.turn_run obeys _ shown).1] at failed
    cases failed
  | disable h =>
    cases use
    obtain ⟨failed, _⟩ := map_failed failed
    rw [run_eq_turn, (honest.turn_run obeys _ shown).1] at failed
    cases failed
  | setPeriod h period =>
    cases use
    obtain ⟨failed, state⟩ := map_failed failed
    rw [state]
    rw [changePeriod_eq_turn, recorded_bind] at failed ⊢
    exact honest.checked_failed failed
  | setDuty h duty =>
    cases use
    obtain ⟨failed, state⟩ := map_failed failed
    rw [state]
    rw [changeDuty_eq_turn, recorded_bind] at failed ⊢
    exact honest.checked_failed failed
  | setPolarity h polarity =>
    cases use
    obtain ⟨failed, state⟩ := map_failed failed
    rw [state]
    exact honest.changePolarity_failed obeys shown failed

end Driver

/-! ### The desk -/

section Desks

variable {d : Driver σ C} {v : View σ C} {desk desk' : Desk σ Signal C} {h : Handle}

def record? (desk : Desk σ Signal C) (h : Handle) : Option Signal :=
  (desk.leases.get? h).map (·.settings)

theorem record?_after {key : UInt32} {lease : Lease Signal C}
    (live : desk.leases.slots.get? h = some (key, lease)) (p : σ × Lease Signal C) (h' : Handle) :
    record? (desk.after h p) h' = if h' = h then some p.2.settings else record? desk h' := by
  simp only [record?, Desk.after, HandleTable.get?, HandleTable.slots_set live]
  split <;> rfl

def View.outputOf? (v : View σ C) (desk : Desk σ Signal C) (h : Handle) : Option Output := do
  let lease ← desk.leases.get? h
  v.output? desk.device lease.channel

/-- What callers are told under the handle is the same as before, and so is the signal. -/
structure SameUnder (d : Driver σ C) (v : View σ C) (desk desk' : Desk σ Signal C) (h : Handle) :
    Prop where
  config : (d.perform (.config h) desk').answer = (d.perform (.config h) desk).answer
  running : (d.perform (.isEnabled h) desk').answer = (d.perform (.isEnabled h) desk).answer
  output : v.outputOf? desk' h = v.outputOf? desk h

/-- The signals of outputs that are not leased are the same as before. -/
def SameElsewhere (v : View σ C) (desk desk' : Desk σ Signal C) : Prop :=
  ∀ ch, desk.leases.containsKey (v.pin ch) = false →
    v.output? desk'.device ch = v.output? desk.device ch

structure Unaltered (d : Driver σ C) (v : View σ C) (desk desk' : Desk σ Signal C) : Prop where
  under : ∀ h, SameUnder d v desk desk' h
  elsewhere : SameElsewhere v desk desk'

/-- All is the same as before, but the output under the handle, which ran, is at rest. -/
structure Stopped (d : Driver σ C) (v : View σ C) (desk desk' : Desk σ Signal C) (h : Handle) :
    Prop where
  others : ∀ h', h' ≠ h → SameUnder d v desk desk' h'
  elsewhere : SameElsewhere v desk desk'
  config : (d.perform (.config h) desk').answer = (d.perform (.config h) desk).answer
  running : (d.perform (.isEnabled h) desk').answer = .ok (.enabled false)
  output : v.outputOf? desk' h = (v.outputOf? desk h).map fun o => { o with running := false }

private theorem config_answer (desk : Desk σ Signal C) (h : Handle) :
    (d.perform (.config h) desk).answer =
      ((record? desk h).map fun s => Answer.config s.config).elim (.error (.unknownHandle h)) .ok := by
  rw [d.perform_eq]
  simp only [Driver.errand, Errand.run, Desk.inspect, record?]
  cases desk.leases.get? h <;> rfl

private theorem isEnabled_answer (desk : Desk σ Signal C) (h : Handle) :
    (d.perform (.isEnabled h) desk).answer =
      ((record? desk h).map fun s => Answer.enabled s.running).elim
        (.error (.unknownHandle h)) .ok := by
  rw [d.perform_eq]
  simp only [Driver.errand, Errand.run, Desk.inspect, record?]
  cases desk.leases.get? h <;> rfl

private theorem isEnabled_answer_iff {on : Bool} :
    (d.perform (.isEnabled h) desk).answer = .ok (.enabled on) ↔
      ∃ s, record? desk h = some s ∧ s.running = on := by
  rw [isEnabled_answer]
  cases record? desk h with
  | none => simp
  | some s => simp

private theorem outputOf?_eq {bare : Option Output → Prop} (tended : desk.Tended (Shown v bare))
    (h : Handle) : v.outputOf? desk h = (record? desk h).map Signal.output := by
  unfold View.outputOf? record?
  cases live : desk.leases.get? h with
  | none => rfl
  | some lease =>
    obtain ⟨pin, slot⟩ := HandleTable.get?_eq_some_iff.mp live
    exact (tended.live slot).2

private theorem sameUnder_of_record {bare : Option Output → Prop} (tended : desk.Tended (Shown v bare))
    (tended' : desk'.Tended (Shown v bare)) (same : record? desk' h = record? desk h) :
    SameUnder d v desk desk' h where
  config := by rw [config_answer, config_answer, same]
  running := by rw [isEnabled_answer, isEnabled_answer, same]
  output := by rw [outputOf?_eq tended, outputOf?_eq tended', same]

private theorem Command.uses_of_changed {k : Command} (change : k.changed? = some h) :
    ∃ work, d.errand k = .use h work := by
  cases k with
  | request c | release h | config h | isEnabled h => cases change
  | enable h | disable h | setPeriod h period | setDuty h duty | setPolarity h polarity =>
    cases change
    exact ⟨_, rfl⟩

/-- A change that fails leaves all records but its own as they were, and the outputs without a record
too. -/
private theorem Driver.Honest.failed_step (honest : d.Honest v) (obeys : d.Obedient v)
    {bare : Option Output → Prop} (tended : desk.Tended (Shown v bare)) {k : Command}
    (change : k.changed? = some h) {f : Fault} (failed : (d.perform k desk).answer = .error f) :
    (∀ h', record? (d.perform k desk).state h' =
        if h' = h then (record? desk h).map k.setback else record? desk h') ∧
      SameElsewhere v desk (d.perform k desk).state := by
  obtain ⟨work, use⟩ := Command.uses_of_changed (d := d) change
  have course := (d.errand k).course d.device .granted .done desk
  rw [← d.perform_eq k, use] at course
  generalize (d.perform k desk).answer = answer at course failed
  generalize (d.perform k desk).state = desk' at course ⊢
  cases course with
  | @unknown _ h' about dead =>
    obtain rfl : h = h' := Option.some.inj about
    refine ⟨fun h' => ?_, fun ch _ => rfl⟩
    split
    · next same =>
      subst same
      simp only [record?, HandleTable.get?_eq_none_iff.mpr dead, Option.map_none]
    · rfl
  | @used _ pin lease _ live =>
    obtain ⟨at_pin, output⟩ := tended.live live
    have moved := honest.change_failed obeys (p := (desk.device, lease)) change use output failed
    have value : desk.leases.get? h = some lease := HandleTable.get?_eq_some_iff.mpr ⟨pin, live⟩
    constructor
    · intro h'
      rw [record?_after live]
      split
      · change _ = Option.map k.setback (Option.map _ (desk.leases.get? h))
        rw [value]
        exact congrArg some moved.settings
      · rfl
    · intro ch free
      refine moved.others ch fun same => ?_
      have busy := tended.sound.containsKey_iff.mpr ⟨h, lease, live⟩
      rw [same, at_pin, busy] at free
      cases free

/-- Over an honest and obedient device, and after every run, a change that fails leaves all that
callers are told and all signals as they were, but for a change of polarity of a running output. That
one leaves its output at rest. -/
theorem failed_change_unaltered_unless_stopped (d : Driver σ C) (v : View σ C) (honest : d.Honest v)
    (obeys : d.Obedient v) (s : σ) (counter : Nat) (ks : List Command) {k : Command} {h : Handle}
    (change : k.changed? = some h) {f : Fault}
    (failed : (d.perform k (Action.runAll d.perform ks (Desk.vacant s counter))).answer = .error f) :
    let desk := Action.runAll d.perform ks (Desk.vacant s counter)
    let after := (d.perform k desk).state
    let polarity_of_running := (∃ polarity, k = .setPolarity h polarity) ∧
      (d.perform (.isEnabled h) desk).answer = .ok (.enabled true)
    (Unaltered d v desk after ↔ ¬ polarity_of_running) ∧
      (polarity_of_running → Stopped d v desk after h) := by
  intro desk after polarity_of_running
  have tends : d.Tends (Shown v fun _ => True) := honest.tends fun _ _ _ _ => trivial
  have tended : desk.Tended (Shown v fun _ => True) := tends.runAll (fun _ _ _ => trivial) counter ks
  have tended' : after.Tended (Shown v fun _ => True) := tends.step k tended
  obtain ⟨records, elsewhere⟩ := honest.failed_step obeys tended change failed
  have own : record? after h = (record? desk h).map k.setback := (records h).trans (if_pos rfl)
  have others (h' : Handle) (differs : h' ≠ h) : SameUnder d v desk after h' :=
    sameUnder_of_record tended tended' ((records h').trans (if_neg differs))
  have stops (exception : polarity_of_running) : Stopped d v desk after h := by
    obtain ⟨⟨polarity, rfl⟩, runs⟩ := exception
    obtain ⟨signal, recorded, _⟩ := isEnabled_answer_iff.mp runs
    have stopped : record? after h = some { signal with running := false } := by
      rw [own, recorded]
      rfl
    refine ⟨others, elsewhere, ?_, isEnabled_answer_iff.mpr ⟨_, stopped, rfl⟩, ?_⟩
    · rw [config_answer, config_answer, stopped, recorded]
      rfl
    · rw [outputOf?_eq tended, outputOf?_eq tended', stopped, recorded]
      rfl
  refine ⟨⟨fun unaltered exception => ?_, fun ordinary => ⟨fun h' => ?_, elsewhere⟩⟩, stops⟩
  · have told := (unaltered.under h).running
    rw [exception.2, (stops exception).running] at told
    cases told
  · by_cases here : h' = h
    · subst here
      refine sameUnder_of_record tended tended' (own.trans ?_)
      cases recorded : record? desk h' with
      | none => rfl
      | some signal =>
        refine congrArg some (k.setback_eq_self ?_)
        rintro h polarity rfl
        cases change
        refine Bool.eq_false_iff.mpr fun runs => ordinary ⟨⟨polarity, rfl⟩, ?_⟩
        exact isEnabled_answer_iff.mpr ⟨signal, recorded, runs⟩
    · exact others h' here

end Desks

/-! ### Simulated outputs of one polarity -/

namespace Outputs

def unipolar : Driver Outputs UInt32 :=
  { driver with setPolarity := fun _ => Action.fail (.notSupported "injected set_polarity") }

private theorem unipolar_honest : unipolar.Honest view where
  claim_others := driver_honest.claim_others
  claim_failed := driver_honest.claim_failed
  claim_done := driver_honest.claim_done
  does verb := by
    cases verb with
    | setPolarity polarity =>
      exact ⟨⟨fun _ => rfl, fun _ _ _ => rfl, fun _ _ _ => rfl⟩, fun _ done => nomatch done⟩
    | setRunning on => exact driver_honest.does (.setRunning on)
    | setPeriod period => exact driver_honest.does (.setPeriod period)
    | setDuty duty => exact driver_honest.does (.setDuty duty)
  close := driver_honest.close

private theorem unipolar_obedient : unipolar.Obedient view := by
  intro on o pin x shown
  change (update _ (o, pin)).answer = .ok ()
  rw [update_apply, show o.output? pin = some x from shown]

end Outputs

/-- A period that is shorter than the pulse of a running output changes nothing. -/
theorem refused_period_unaltered :
    let d := Outputs.unipolar
    let ks : List Command := [.request (.ofPin 1 1000 250), .enable ⟨1⟩]
    let desk := Action.runAll d.perform ks (Desk.vacant {} 1)
    (d.perform (.setPeriod ⟨1⟩ 100) desk).answer =
        .error (.invalidArgument "duty cycle 250 ns exceeds period 100 ns") ∧
      Unaltered d Outputs.view desk (d.perform (.setPeriod ⟨1⟩ 100) desk).state := by
  intro d ks desk
  have failed : (d.perform (.setPeriod ⟨1⟩ 100) desk).answer =
      .error (.invalidArgument "duty cycle 250 ns exceeds period 100 ns") := by decide +kernel
  have unaltered := (failed_change_unaltered_unless_stopped d Outputs.view Outputs.unipolar_honest
    Outputs.unipolar_obedient {} 1 ks rfl failed).1.mpr
  refine ⟨failed, unaltered ?_⟩
  rintro ⟨⟨polarity, change⟩, _⟩
  cases change

/-- A running output whose polarity could not be changed is left at rest. -/
theorem refused_polarity_stops_output :
    let d := Outputs.unipolar
    let desk := Action.runAll d.perform [.request (.ofPin 1 1000 250), .enable ⟨1⟩]
      (Desk.vacant {} 1)
    let after := (d.perform (.setPolarity ⟨1⟩ .inversed) desk).state
    d.Honest Outputs.view ∧ d.Obedient Outputs.view ∧
      (d.perform (.setPolarity ⟨1⟩ .inversed) desk).answer =
        .error (.notSupported "injected set_polarity") ∧
      (d.perform (.isEnabled ⟨1⟩) desk).answer = .ok (.enabled true) ∧
      (d.perform (.isEnabled ⟨1⟩) after).answer = .ok (.enabled false) ∧
      desk.device.output? 1 = some ⟨1000, 250, .normal, true⟩ ∧
      after.device.output? 1 = some ⟨1000, 250, .normal, false⟩ := by
  intro d desk after
  refine ⟨Outputs.unipolar_honest, Outputs.unipolar_obedient, ?_, ?_, ?_, ?_, ?_⟩
  all_goals decide +kernel

end Peripherals.Pwm

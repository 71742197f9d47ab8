import Peripherals.Proofs.Pwm.Failure
import Peripherals.Pwm.Parameters
/-!
The parameters of an output as a register file with checks. A device is willing if it follows every
call to an output that is there. Main statement: over simulated outputs a parameter accepts just the
values that make a legal signal, and then reads as the value that it accepted last; what is refused
changes nothing.
-/

set_option autoImplicit false

namespace Peripherals.Pwm

variable {σ C : Type}

/-! ### Changes -/

/-- The device follows every call to an output that is there. -/
def Driver.Willing (d : Driver σ C) (v : View σ C) : Prop :=
  ∀ verb s ch o, v.output? s ch = some o → (d.calls verb (s, ch)).answer = .ok ()

private theorem Outputs.driver_willing : Outputs.driver.Willing Outputs.view := by
  intro verb s pin o shown
  have shown : s.output? pin = some o := shown
  cases verb
  all_goals
    change (Outputs.update _ (s, pin)).answer = .ok ()
    rw [Outputs.update_apply, shown]

namespace Verb

def check : Verb → Signal → Except Fault Unit
  | .setPeriod period, s => checkDuty period s.config.duty
  | .setDuty duty, s => checkDuty s.config.period duty
  | .setRunning _, _ | .setPolarity _, _ => .ok ()

def command (h : Handle) : Verb → Command
  | .setRunning true => .enable h
  | .setRunning false => .disable h
  | .setPeriod period => .setPeriod h period
  | .setDuty duty => .setDuty h duty
  | .setPolarity polarity => .setPolarity h polarity

end Verb

namespace Driver

variable (d : Driver σ C)

def change : Verb → Action Fault (σ × Lease Signal C) Unit
  | .setRunning on => d.run on
  | .setPeriod period => d.changePeriod period
  | .setDuty duty => d.changeDuty duty
  | .setPolarity polarity => d.changePolarity polarity

private theorem errand_command (h : Handle) (verb : Verb) :
    d.errand (verb.command h) = .use h ((fun _ => .done) <$> d.change verb) := by
  cases verb with
  | setRunning on => cases on <;> rfl
  | setPeriod period | setDuty duty | setPolarity polarity => rfl

variable {d} {v : View σ C} {p : σ × Lease Signal C} {o : Output}

private theorem change_refused {verb : Verb} {f : Fault}
    (refuses : verb.check p.2.settings = .error f) :
    d.change verb p = ⟨.error f, [], p⟩ := by
  cases verb with
  | setRunning on | setPolarity polarity => cases refuses
  | setPeriod period =>
    rw [change, changePeriod_eq_turn, recorded_bind, show checkDuty _ _ = _ from refuses]
    rfl
  | setDuty duty =>
    rw [change, changeDuty_eq_turn, recorded_bind, show checkDuty _ _ = _ from refuses]
    rfl

private theorem Honest.turn_done (honest : d.Honest v) (willing : d.Willing v) (verb : Verb)
    (shown : v.output? p.1 p.2.channel = some o) :
    (d.turn verb p).answer = .ok () ∧ Moved v verb.note p (d.turn verb p).state ∧
      v.output? (d.turn verb p).state.1 (d.turn verb p).state.2.channel = some (verb.effect o) :=
  honest.turn_obeyed (willing verb p.1 p.2.channel o shown) shown

private theorem Honest.changePolarity_done (honest : d.Honest v) (willing : d.Willing v)
    (polarity : Polarity)
    (shown : v.output? p.1 p.2.channel = some o) : (d.changePolarity polarity p).answer = .ok () ∧
      Moved v (Verb.setPolarity polarity).note p (d.changePolarity polarity p).state := by
  rw [changePolarity_eq_turn, recorded_bind]
  cases running : p.2.settings.running with
  | false =>
    simp only [Bool.false_eq_true, if_false, pure_bind, bind_pure_unit]
    obtain ⟨done, moved, _⟩ := honest.turn_done willing (.setPolarity polarity) shown
    exact ⟨done, moved⟩
  | true =>
    simp only [if_true]
    obtain ⟨stopped, moved, shown⟩ := honest.turn_done willing (.setRunning false) shown
    obtain ⟨set, moved', shown⟩ := honest.turn_done willing (.setPolarity polarity) shown
    obtain ⟨started, moved'', _⟩ := honest.turn_done willing (.setRunning true) shown
    obtain ⟨answer, state⟩ := Action.bind_ok (f := fun _ => d.turn (.setPolarity polarity) >>= fun _ =>
      d.turn (.setRunning true)) stopped
    obtain ⟨answer', state'⟩ := Action.bind_ok (f := fun _ => d.turn (.setRunning true)) set
    rw [answer, state, answer', state']
    refine ⟨started, ((moved.trans moved').trans moved'').congr ?_⟩
    change Signal.mk _ true = Signal.mk _ p.2.settings.running
    rw [running]
    rfl

private theorem Honest.change_done (honest : d.Honest v) (willing : d.Willing v) {verb : Verb}
    (passes : verb.check p.2.settings = .ok ()) (shown : v.output? p.1 p.2.channel = some o) :
    (d.change verb p).answer = .ok () ∧ Moved v verb.note p (d.change verb p).state := by
  cases verb with
  | setRunning on =>
    obtain ⟨done, moved, _⟩ := honest.turn_done willing (.setRunning on) shown
    exact ⟨done, moved⟩
  | setPolarity polarity => exact honest.changePolarity_done willing polarity shown
  | setPeriod period =>
    rw [change, changePeriod_eq_turn, recorded_bind, show checkDuty _ _ = _ from passes]
    obtain ⟨done, moved, _⟩ := honest.turn_done willing (.setPeriod period) shown
    exact ⟨done, moved⟩
  | setDuty duty =>
    rw [change, changeDuty_eq_turn, recorded_bind, show checkDuty _ _ = _ from passes]
    obtain ⟨done, moved, _⟩ := honest.turn_done willing (.setDuty duty) shown
    exact ⟨done, moved⟩

end Driver

/-! ### Changes at a desk -/

section Desks

variable {d : Driver σ C} {v : View σ C} {bare : Option Output → Prop} {desk : Desk σ Signal C}
  {h : Handle} {s : Signal} {verb : Verb}

private theorem slot_of_record? (recorded : record? desk h = some s) :
    ∃ key channel, desk.leases.slots.get? h = some (key, ⟨s, channel⟩) := by
  obtain ⟨lease, live, rfl⟩ := Option.map_eq_some_iff.mp recorded
  obtain ⟨key, slot⟩ := HandleTable.get?_eq_some_iff.mp live
  exact ⟨key, lease.channel, slot⟩

private theorem perform_command (d : Driver σ C) (verb : Verb)
    (live : ∃ key channel, desk.leases.slots.get? h = some (key, ⟨s, channel⟩)) :
    ∃ key channel, desk.leases.slots.get? h = some (key, ⟨s, channel⟩) ∧
      d.perform (verb.command h) desk =
        ⟨(d.change verb (desk.device, ⟨s, channel⟩)).answer.map fun _ => .done,
          (d.change verb (desk.device, ⟨s, channel⟩)).events,
          desk.after h (d.change verb (desk.device, ⟨s, channel⟩)).state⟩ := by
  obtain ⟨key, channel, live⟩ := live
  refine ⟨key, channel, live, ?_⟩
  rw [d.perform_eq, d.errand_command]
  change Desk.withLease h _ desk = _
  rw [Desk.withLease_live live, Action.map_apply]

private theorem perform_refused (recorded : record? desk h = some s) {f : Fault}
    (refuses : verb.check s = .error f) :
    (d.perform (verb.command h) desk).answer = .error f ∧
      (d.perform (verb.command h) desk).state.device = desk.device ∧
      ∀ h', record? (d.perform (verb.command h) desk).state h' = record? desk h' := by
  obtain ⟨key, channel, live, performs⟩ := perform_command d verb (slot_of_record? recorded)
  rw [performs, Driver.change_refused (p := (desk.device, ⟨s, channel⟩)) refuses]
  refine ⟨rfl, rfl, fun h' => (record?_after live _ h').trans ?_⟩
  split
  · next same =>
    rw [same]
    exact recorded.symm
  · rfl

private theorem perform_done (honest : d.Honest v) (willing : d.Willing v)
    (tended : desk.Tended (Shown v bare))
    (recorded : record? desk h = some s) (passes : verb.check s = .ok ()) :
    (d.perform (verb.command h) desk).answer = .ok .done ∧
      (∀ h', record? (d.perform (verb.command h) desk).state h' =
        if h' = h then some (verb.note s) else record? desk h') ∧
      ∀ h', (d.perform (verb.command h) desk).state.leases.keyOf? h' = desk.leases.keyOf? h' := by
  obtain ⟨key, channel, live, performs⟩ := perform_command d verb (slot_of_record? recorded)
  obtain ⟨_, shown⟩ := tended.live live
  obtain ⟨done, moved⟩ := honest.change_done willing (p := (desk.device, ⟨s, channel⟩)) passes shown
  rw [performs, done]
  refine ⟨rfl, fun h' => (record?_after live _ h').trans ?_, Desk.keyOf?_after live _⟩
  rw [moved.settings]

end Desks

namespace Parameters

/-! ### Values -/

/-- The parameters of an output. -/
inductive Parameter where
  | period | duty | polarity | running
  deriving DecidableEq

namespace Parameter

def name : Parameter → String
  | .period => "period"
  | .duty => "duty_cycle"
  | .polarity => "polarity"
  | .running => "enabled"

def value (o : Output) : Parameter → Json
  | .period => .nat o.period.toNat
  | .duty => .nat o.duty.toNat
  | .polarity => .text o.polarity.name
  | .running => .bool o.running

end Parameter

/-- The value as which an accepted value reads: of the two words for the inversed polarity one is
read back. -/
def readsAs : Json → Json
  | .text "inverse" => .text "inversed"
  | v => v

/-- An output with this signal accepts the value under this name, and then it has that signal. -/
inductive Accepted (o : Output) : String → Json → Output → Prop
  | period {n : UInt32} (fits : o.duty ≤ n) : Accepted o "period" (.int n.toNat) { o with period := n }
  | duty {n : UInt32} (fits : n ≤ o.period) : Accepted o "duty_cycle" (.int n.toNat) { o with duty := n }
  | normal : Accepted o "polarity" (.text "normal") { o with polarity := .normal }
  | inversed : Accepted o "polarity" (.text "inversed") { o with polarity := .inversed }
  | inverse : Accepted o "polarity" (.text "inverse") { o with polarity := .inversed }
  | enabled {on : Bool} : Accepted o "enabled" (.bool on) { o with running := on }

private theorem Accepted.reads {o o' : Output} {name : String} {value : Json}
    (accepted : Accepted o name value o') : ∃ p : Parameter, p.name = name ∧
      p.value o' = readsAs value ∧ ∀ q, q ≠ p → q.value o' = q.value o := by
  cases accepted
  case' period => refine ⟨.period, rfl, rfl, ?_⟩
  case' duty => refine ⟨.duty, rfl, rfl, ?_⟩
  case' normal => refine ⟨.polarity, rfl, rfl, ?_⟩
  case' inversed => refine ⟨.polarity, rfl, rfl, ?_⟩
  case' inverse => refine ⟨.polarity, rfl, rfl, ?_⟩
  case' enabled => refine ⟨.running, rfl, rfl, ?_⟩
  all_goals
    intro q other
    cases q <;> first | rfl | exact absurd rfl other

/-- The verb that a value asks for under the name of the parameter. -/
def Parameter.verb (value : Json) : Parameter → Except Refusal Verb
  | .period => (readTime "period" value).map .setPeriod
  | .duty => (readTime "duty_cycle" value).map .setDuty
  | .polarity => (readPolarity value).map .setPolarity
  | .running => (readSwitch value).map .setRunning

private theorem readTime_eq_ok_iff {name : String} {value : Json} {n : UInt32} :
    readTime name value = .ok n ↔ value = .int n.toNat := by
  constructor
  · intro read
    unfold readTime at read
    split at read
    · next m =>
      split at read
      · cases read
      · next natural =>
        split at read
        · next small =>
          obtain rfl := Except.ok.inj read
          change m < 4294967296 at small
          have below : m.toNat < 2 ^ 32 := by omega
          have exact_number : m.toNat.toUInt32.toNat = m.toNat := UInt32.toNat_ofNat_of_lt below
          rw [exact_number, Int.toNat_of_nonneg (by omega)]
        · cases read
    · cases read
  · rintro rfl
    have small : (n.toNat : Int) < Nat.pow 2 32 := by exact_mod_cast n.toNat_lt
    rw [readTime, if_neg (by omega), if_pos small, Int.toNat_natCast]
    exact congrArg Except.ok UInt32.ofNat_toNat

private theorem readPolarity_eq_ok_iff {value : Json} {p : Polarity} : readPolarity value = .ok p ↔
    (value = .text "normal" ∧ p = .normal) ∨
      ((value = .text "inversed" ∨ value = .text "inverse") ∧ p = .inversed) := by
  constructor
  · intro read
    unfold readPolarity at read
    split at read
    · next word =>
      split at read
      · next q known =>
        obtain rfl := Except.ok.inj read
        unfold Polarity.ofWord? at known
        split at known
        · next normal =>
          exact .inl ⟨congrArg Json.text (beq_iff_eq.mp normal), (Option.some.inj known).symm⟩
        · split at known
          · next inversed =>
            refine .inr ⟨?_, (Option.some.inj known).symm⟩
            simpa using inversed
          · cases known
      · cases read
    · cases read
  · rintro (⟨rfl, rfl⟩ | ⟨rfl | rfl, rfl⟩) <;> rfl

private theorem readSwitch_eq_ok_iff {value : Json}
    {on : Bool} : readSwitch value = .ok on ↔ value = .bool on := by
  constructor
  · intro read
    unfold readSwitch at read
    split at read
    · rw [Except.ok.inj read]
    · cases read
  · rintro rfl
    rfl

private theorem checkDuty_eq_ok_iff {period duty : UInt32} : checkDuty period duty = .ok
    () ↔ duty ≤ period := by
  refine ⟨checkDuty_ok, fun fits => ?_⟩
  rw [checkDuty, if_neg (UInt32.not_lt.mpr fits)]

private theorem map_eq_ok_iff {ε α β : Type} {f : α → β} {x : Except ε α} {b : β} :
    x.map f = .ok b ↔ ∃ a, x = .ok a ∧ f a = b := by
  cases x <;> simp [Except.map]

/-- A value is accepted if it asks for a verb that the desk does not refuse. -/
private theorem accepted_iff {s : Signal} {name : String} {value : Json} {o' : Output} :
    Accepted s.output name value o' ↔ ∃ (p : Parameter) (verb : Verb), p.name = name ∧
      p.verb value = .ok verb ∧ verb.check s = .ok () ∧ o' = (verb.note s).output := by
  constructor
  · intro accepted
    cases accepted with
    | @period n fits =>
      have asks : Parameter.period.verb (.int n.toNat) = .ok (.setPeriod n) := by
        rw [Parameter.verb, readTime_eq_ok_iff.mpr rfl]
        rfl
      exact ⟨.period, .setPeriod n, rfl, asks, checkDuty_eq_ok_iff.mpr fits, rfl⟩
    | @duty n fits =>
      have asks : Parameter.duty.verb (.int n.toNat) = .ok (.setDuty n) := by
        rw [Parameter.verb, readTime_eq_ok_iff.mpr rfl]
        rfl
      exact ⟨.duty, .setDuty n, rfl, asks, checkDuty_eq_ok_iff.mpr fits, rfl⟩
    | normal => exact ⟨.polarity, .setPolarity .normal, rfl, rfl, rfl, rfl⟩
    | inversed | inverse => exact ⟨.polarity, .setPolarity .inversed, rfl, rfl, rfl, rfl⟩
    | @enabled on => exact ⟨.running, .setRunning on, rfl, rfl, rfl, rfl⟩
  · rintro ⟨p, verb, rfl, asks, passes, rfl⟩
    cases p with
    | period =>
      obtain ⟨n, read, rfl⟩ := map_eq_ok_iff.mp asks
      rw [readTime_eq_ok_iff.mp read]
      exact .period (checkDuty_eq_ok_iff.mp passes)
    | duty =>
      obtain ⟨n, read, rfl⟩ := map_eq_ok_iff.mp asks
      rw [readTime_eq_ok_iff.mp read]
      exact .duty (checkDuty_eq_ok_iff.mp passes)
    | polarity =>
      obtain ⟨p, read, rfl⟩ := map_eq_ok_iff.mp asks
      rcases readPolarity_eq_ok_iff.mp read with ⟨rfl, rfl⟩ | ⟨rfl | rfl, rfl⟩
      · exact .normal
      · exact .inversed
      · exact .inverse
    | running =>
      obtain ⟨on, read, rfl⟩ := map_eq_ok_iff.mp asks
      rw [readSwitch_eq_ok_iff.mp read]
      exact .enabled

/-! ### Calls -/

section

variable {d : Driver σ C} {x : Parameters} {name : String} {value : Json} {desk : Desk σ Signal C}

private theorem perform_command_unit (d : Driver σ C) (h : Handle) (verb : Verb) :
    (fun _ => ()) <$> d.perform (verb.command h) = Desk.withLease h (d.change verb) := by
  rw [d.perform_eq, d.errand_command]
  change (fun _ => ()) <$> Desk.withLease h _ = _
  rw [Desk.withLease_map, ← comp_map]
  exact congrArg (Desk.withLease h) (id_map' _)

private theorem setValue_name (d : Driver σ C) (x : Parameters) (p : Parameter) (value : Json) :
    x.setValue d p.name value = Action.ofExcept (p.verb value) >>= fun verb =>
      Action.capable (Desk.withLease x.pin.handle (d.change verb)) := by
  cases p with
  | period =>
    change (Action.ofExcept (readTime "period" value) >>= fun period =>
      Action.capable (d.setPeriodOf x.pin.handle period)) = _
    rw [Parameter.verb]
    cases readTime "period" value <;> rfl
  | duty =>
    change (Action.ofExcept (readTime "duty_cycle" value) >>= fun duty =>
      Action.capable (d.setDutyOf x.pin.handle duty)) = _
    rw [Parameter.verb]
    cases readTime "duty_cycle" value <;> rfl
  | polarity =>
    change (Action.ofExcept (readPolarity value) >>= fun polarity =>
      Action.capable (d.setPolarityOf x.pin.handle polarity)) = _
    rw [Parameter.verb]
    cases readPolarity value <;> rfl
  | running =>
    change (Action.ofExcept (readSwitch value) >>= fun on =>
      Action.capable (d.setRunningOf x.pin.handle on)) = _
    rw [Parameter.verb]
    cases readSwitch value <;> rfl

private theorem setValue_unknown (other : ∀ p : Parameter, p.name ≠ name) :
    x.setValue d name value desk = ⟨.error (unknown name), [], desk⟩ := by
  unfold setValue
  split
  · exact absurd rfl (other .period)
  · exact absurd rfl (other .duty)
  · exact absurd rfl (other .polarity)
  · exact absurd rfl (other .running)
  · rfl

private theorem setValue_unread {p : Parameter} {e : Refusal} (refuses : p.verb value = .error e) :
    x.setValue d p.name value desk = ⟨.error e, [], desk⟩ := by
  rw [setValue_name, refuses]
  rfl

private theorem setValue_read (d : Driver σ C) (x : Parameters) (desk : Desk σ Signal C) {p : Parameter}
    {verb : Verb} (asks : p.verb value = .ok verb) :
    (x.setValue d p.name value desk).answer =
        ((d.perform (verb.command x.pin.handle) desk).answer.map fun _ => ()).mapError .fault ∧
      (x.setValue d p.name value desk).state = (d.perform (verb.command x.pin.handle) desk).state := by
  rw [setValue_name, asks]
  change (Action.capable (Desk.withLease x.pin.handle (d.change verb)) desk).answer = _ ∧
    (Action.capable (Desk.withLease x.pin.handle (d.change verb)) desk).state = _
  rw [← perform_command_unit, Action.capable, Action.mapError, Action.map_apply]
  exact ⟨rfl, rfl⟩

private theorem getValue_of_record {s : Signal} (recorded : record? desk x.pin.handle = some s)
    (p : Parameter) :
    (x.getValue p.name desk).answer = .ok (p.value s.output) := by
  obtain ⟨key, channel, slot⟩ := slot_of_record? recorded
  have live : desk.leases.get? x.pin.handle = some ⟨s, channel⟩ :=
    HandleTable.get?_eq_some_iff.mpr ⟨key, slot⟩
  have looks {A : Type} (view : Signal → A) :
      (Action.capable (Desk.inspect x.pin.handle view) : Action Refusal (Desk σ Signal C) A) desk =
        ⟨.ok (view s), [], desk⟩ := by
    simp only [Action.capable, Action.mapError, Desk.inspect, live]
    rfl
  cases p <;>
    simp [getValue, Parameter.name, Parameter.value, Signal.output, Action.map_apply, looks, Except.map]

variable {v : View σ C} {bare : Option Output → Prop} {s : Signal}

private theorem setValue_tended {P : KeyProperty σ Signal C} (tends : d.Tends P)
    (tended : desk.Tended P)
    (x : Parameters) (name : String) (value : Json) : (x.setValue d name value desk).state.Tended P := by
  by_cases known : ∃ p : Parameter, p.name = name
  · obtain ⟨p, rfl⟩ := known
    cases read : p.verb value with
    | error e =>
      rw [setValue_unread read]
      exact tended
    | ok verb =>
      rw [(setValue_read d x desk read).2]
      exact tends.step _ tended
  · rw [setValue_unknown fun p same => known ⟨p, same⟩]
    exact tended

private theorem setValue_accepted (honest : d.Honest v) (willing : d.Willing v)
    (tended : desk.Tended (Shown v bare)) (recorded : record? desk x.pin.handle = some s) {o' : Output}
    (accepted : Accepted s.output name value o') : (x.setValue d name value desk).answer = .ok () ∧
      (∃ s' : Signal, s'.output = o' ∧ ∀ h, record? (x.setValue d name value desk).state h =
        if h = x.pin.handle then some s' else record? desk h) ∧
      ∀ h, (x.setValue d name value desk).state.leases.keyOf? h = desk.leases.keyOf? h := by
  obtain ⟨p, verb, rfl, read, passes, rfl⟩ := accepted_iff.mp accepted
  obtain ⟨answer, state⟩ := setValue_read d x desk read
  obtain ⟨done, records, keys⟩ := perform_done honest willing tended recorded passes
  rw [answer, state, done]
  exact ⟨rfl, ⟨verb.note s, rfl, records⟩, keys⟩

private theorem setValue_refused (recorded : record? desk x.pin.handle = some s)
    (refused : ∀ o', ¬ Accepted s.output name value o') :
    (∃ e, (x.setValue d name value desk).answer = .error e) ∧
      (x.setValue d name value desk).state.device = desk.device ∧
      ∀ h, record? (x.setValue d name value desk).state h = record? desk h := by
  by_cases known : ∃ p : Parameter, p.name = name
  · obtain ⟨p, rfl⟩ := known
    cases read : p.verb value with
    | error e =>
      rw [setValue_unread read]
      exact ⟨⟨e, rfl⟩, rfl, fun _ => rfl⟩
    | ok verb =>
      cases check : verb.check s with
      | ok u => exact absurd (accepted_iff.mpr ⟨p, verb, rfl, read, check, rfl⟩) (refused _)
      | error f =>
        obtain ⟨answer, state⟩ := setValue_read d x desk read
        obtain ⟨failed, device, records⟩ := perform_refused (d := d) recorded check
        rw [answer, state, failed]
        exact ⟨⟨_, rfl⟩, device, records⟩
  · rw [setValue_unknown fun p same => known ⟨p, same⟩]
    exact ⟨⟨_, rfl⟩, rfl, fun _ => rfl⟩

private theorem setValue_dead (dead : desk.leases.slots.get? x.pin.handle = none) :
    (x.setValue d name value desk).state = desk := by
  by_cases known : ∃ p : Parameter, p.name = name
  · obtain ⟨p, rfl⟩ := known
    cases read : p.verb value with
    | error e => rw [setValue_unread read]
    | ok verb =>
      have course := (d.errand (verb.command x.pin.handle)).course d.device .granted .done desk
      rw [← d.perform_eq] at course
      have about : (d.errand (verb.command x.pin.handle)).handle? = some x.pin.handle := by
        rw [d.errand_command]
        rfl
      rw [(setValue_read d x desk read).2]
      exact (course.of_dead about dead).2
  · rw [setValue_unknown fun p same => known ⟨p, same⟩]

private theorem setValue_others (honest : d.Honest v) (willing : d.Willing v)
    (tended : desk.Tended (Shown v bare)) {h : Handle} (other : h ≠ x.pin.handle) :
    record? (x.setValue d name value desk).state h = record? desk h := by
  cases recorded : record? desk x.pin.handle with
  | some s =>
    by_cases accepted : ∃ o', Accepted s.output name value o'
    · obtain ⟨o', accepted⟩ := accepted
      obtain ⟨_, ⟨s', _, records⟩, _⟩ := setValue_accepted honest willing tended recorded accepted
      rw [records h, if_neg other]
    · exact (setValue_refused recorded fun o' a => accepted ⟨o', a⟩).2.2 h
  | none =>
    rw [setValue_dead (HandleTable.get?_eq_none_iff.mp (Option.map_eq_none_iff.mp recorded))]

end

/-! ### Runs -/

/-- A value that is set by way of an adapter. -/
structure Call where
  adapter : Parameters
  name : String
  value : Json

def Call.perform (d : Driver σ C) (call : Call) : Action Refusal (Desk σ Signal C) Unit :=
  call.adapter.setValue d call.name call.value

/-- The value of a parameter of the output under the handle, after a call that got this answer. -/
def noted (h : Handle) (p : Parameter) (before : Json) (entry : Call × Except Refusal Unit) : Json :=
  if entry.1.adapter.pin.handle = h ∧ entry.1.name = p.name ∧ entry.2.isOk then readsAs entry.1.value
  else before

/-- The value that the parameter accepted last, or the one that it had before. -/
def lastAccepted (h : Handle) (p : Parameter) (before : Json)
    (entries : List (Call × Except Refusal Unit)) : Json :=
  entries.foldl (noted h p) before

private theorem Parameter.name_injective {p q : Parameter} (same : p.name = q.name) : p = q := by
  revert same
  cases p <;> cases q <;> decide

section

variable {d : Driver σ C} {v : View σ C} {bare : Option Output → Prop} {desk : Desk σ Signal C}
  {h : Handle} {s : Signal}

private theorem Call.perform_noted (honest : d.Honest v) (willing : d.Willing v)
    (tended : desk.Tended (Shown v bare)) (recorded : record? desk h = some s) (call : Call) :
    ∃ s', record? (call.perform d desk).state h = some s' ∧ ∀ p : Parameter,
      p.value s'.output = noted h p (p.value s.output) (call, (call.perform d desk).answer) := by
  obtain ⟨x, name, value⟩ := call
  by_cases own : x.pin.handle = h
  · subst own
    by_cases accepted : ∃ o', Accepted s.output name value o'
    · obtain ⟨o', accepted⟩ := accepted
      obtain ⟨q, named, reads, stays⟩ := accepted.reads
      obtain ⟨done, ⟨s', rfl, records⟩, _⟩ := setValue_accepted honest willing tended recorded accepted
      refine ⟨s', (records _).trans (if_pos rfl), fun p => ?_⟩
      by_cases here : p = q
      · subst here
        exact reads.trans (if_pos ⟨rfl, named.symm, congrArg Except.isOk done⟩).symm
      · refine (stays p here).trans (if_neg fun noted => here ?_).symm
        exact Parameter.name_injective (noted.2.1.symm.trans named.symm)
    · obtain ⟨⟨e, failed⟩, _, records⟩ :=
        setValue_refused (d := d) recorded fun o' a => accepted ⟨o', a⟩
      refine ⟨s, (records _).trans recorded, fun p => (if_neg fun noted => ?_).symm⟩
      have ok := (congrArg Except.isOk failed).symm.trans noted.2.2
      cases ok
  · refine ⟨s, (setValue_others honest willing tended fun same => own same.symm).trans recorded, ?_⟩
    exact fun p => (if_neg fun noted => own noted.1).symm

private theorem Call.run_noted (honest : d.Honest v) (willing : d.Willing v)
    (tends : d.Tends (Shown v bare))
    (tended : desk.Tended (Shown v bare)) (recorded : record? desk h = some s) (calls : List Call) :
    ∃ s', record? (Action.runAll (Call.perform d) calls desk) h = some s' ∧ ∀ p : Parameter,
      p.value s'.output = lastAccepted h p (p.value s.output)
        (calls.zip (Action.replies (Call.perform d) calls desk)) := by
  induction calls generalizing desk s with
  | nil => exact ⟨s, recorded, fun _ => rfl⟩
  | cons call calls ih =>
    obtain ⟨s', recorded', now⟩ := Call.perform_noted honest willing tended recorded call
    have tended' := setValue_tended tends tended call.adapter call.name call.value
    obtain ⟨s'', recorded'', later⟩ := ih tended' recorded'
    refine ⟨s'', recorded'', fun p => (later p).trans ?_⟩
    rw [now p]
    rfl

end

/-- The adapter of a live simulated output shows the signal of the output. It accepts what makes a
legal signal of it, and refuses the rest with no effect. -/
structure Register (x : Parameters) (pin : UInt32) (o : Output) (desk : Desk Outputs Signal UInt32) :
    Prop where
  output : desk.device.output? pin = some o
  reads : ∀ p : Parameter, (x.getValue p.name desk).answer = .ok (p.value o)
  accepts : ∀ name value o', Accepted o name value o' →
    (x.setValue Outputs.driver name value desk).answer = .ok () ∧
      (x.setValue Outputs.driver name value desk).state.device.output? pin = some o' ∧
      ∀ p : Parameter, (x.getValue p.name (x.setValue Outputs.driver name value desk).state).answer =
        .ok (p.value o')
  refuses : ∀ name value, (∀ o', ¬ Accepted o name value o') →
    (∃ e, (x.setValue Outputs.driver name value desk).answer = .error e) ∧
      (x.setValue Outputs.driver name value desk).state.device = desk.device ∧
      ∀ p : Parameter, (x.getValue p.name (x.setValue Outputs.driver name value desk).state).answer =
        .ok (p.value o)

private theorem output?_of_record {desk : Desk Outputs Signal UInt32} {bare : Option Output → Prop}
    (tended : desk.Tended (Shown Outputs.view bare)) {h : Handle} {s : Signal}
    (recorded : record? desk h = some s) {pin : UInt32} (live : desk.leases.keyOf? h = some pin) :
    desk.device.output? pin = some s.output := by
  obtain ⟨key, channel, slot⟩ := slot_of_record? recorded
  obtain ⟨at_pin, shown⟩ := tended.live slot
  obtain rfl : key = pin := Option.some.inj ((congrArg (Option.map Prod.fst) slot).symm.trans live)
  obtain rfl : channel = key := at_pin
  exact shown

/-- After every run over simulated outputs the parameters of a live output are a register file with
checks: what it accepts is told by name, value and signal, an accepted value is read back while all
other parameters stay, and a refused one changes nothing. After every further run of calls, through
this adapter and others, each parameter reads as the value that it accepted last. -/
theorem parameters_read_as_last_accepted (counter : Nat) (ks : List Command) (x : Parameters)
    {pin : UInt32} :
    let desk := Action.runAll Outputs.driver.perform ks (Desk.vacant {} counter)
    desk.leases.keyOf? x.pin.handle = some pin → ∃ o, Register x pin o desk ∧
      (∀ name value o', Accepted o name value o' → ∃ p : Parameter, p.name = name ∧
        p.value o' = readsAs value ∧ ∀ q, q ≠ p → q.value o' = q.value o) ∧
      ∀ (calls : List Call) (p : Parameter),
        (x.getValue p.name (Action.runAll (Call.perform Outputs.driver) calls desk)).answer =
          .ok (lastAccepted x.pin.handle p (p.value o)
            (calls.zip (Action.replies (Call.perform Outputs.driver) calls desk))) := by
  intro desk live
  have honest := Outputs.driver_honest
  have willing := Outputs.driver_willing
  have tends : Outputs.driver.Tends (Shown Outputs.view fun o => o = none) :=
    honest.tends Outputs.driver_clears
  have tended : desk.Tended (Shown Outputs.view fun o => o = none) :=
    tends.runAll (fun _ _ _ => rfl) counter ks
  obtain ⟨lease, slot⟩ := HandleTable.keyOf?_eq_some_iff.mp live
  have recorded : record? desk x.pin.handle = some lease.settings :=
    Option.map_eq_some_iff.mpr ⟨lease, HandleTable.get?_eq_some_iff.mpr ⟨pin, slot⟩, rfl⟩
  refine ⟨lease.settings.output, ⟨output?_of_record tended recorded live, getValue_of_record recorded,
    fun name value o' accepted => ?_, fun name value refused => ?_⟩,
    fun name value o' accepted => accepted.reads, fun calls p => ?_⟩
  · obtain ⟨done, ⟨s', rfl, records⟩, keys⟩ := setValue_accepted honest willing tended recorded accepted
    have recorded' := (records _).trans (if_pos rfl)
    have tended' := setValue_tended tends tended x name value
    exact ⟨done, output?_of_record tended' recorded' ((keys _).trans live),
      getValue_of_record recorded'⟩
  · obtain ⟨failed, device, records⟩ := setValue_refused (d := Outputs.driver) recorded refused
    exact ⟨failed, device, getValue_of_record ((records _).trans recorded)⟩
  · obtain ⟨s', recorded', noted⟩ := Call.run_noted honest willing tends tended recorded calls
    rw [getValue_of_record recorded', noted]

/-- A running output is given the inversed polarity under its second word, then one that does not
exist, a period below its pulse and a shorter pulse. -/
theorem inverse_reads_as_inversed :
    let x : Parameters := ⟨⟨⟨1⟩, ⟨.ofPin 3 100 40, false⟩, false⟩⟩
    let desk := Action.runAll Outputs.driver.perform [.request (.ofPin 3 100 40), .enable ⟨1⟩]
      (Desk.vacant {} 1)
    let calls : List Call := [⟨x, "polarity", .text "inverse"⟩, ⟨x, "polarity", .text "up"⟩,
      ⟨x, "period", .int 39⟩, ⟨x, "duty_cycle", .int 7⟩]
    let later := Action.runAll (Call.perform Outputs.driver) calls desk
    desk.leases.keyOf? ⟨1⟩ = some 3 ∧
      (x.getValue "polarity" later).answer = .ok (.text "inversed") ∧
      (x.getValue "period" later).answer = .ok (.int 100) ∧
      (x.getValue "duty_cycle" later).answer = .ok (.int 7) := by
  intro x desk calls later
  have live : desk.leases.keyOf? x.pin.handle = some 3 := by decide +kernel
  obtain ⟨o, register, _, reads⟩ := parameters_read_as_last_accepted 1
    [.request (.ofPin 3 100 40), .enable ⟨1⟩] x live
  have shown : desk.device.output? 3 = some ⟨100, 40, .normal, true⟩ := by decide +kernel
  obtain rfl := Option.some.inj (shown.symm.trans register.output)
  exact ⟨live, reads calls .polarity, reads calls .period, reads calls .duty⟩

end Parameters

end Peripherals.Pwm

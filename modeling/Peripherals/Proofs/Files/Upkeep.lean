import Peripherals.Proofs.Files.Kempt
import Peripherals.Proofs.Gpio.Ports
import Peripherals.Proofs.Pwm.Attributes
import Peripherals.Proofs.Pwm.Use
/-!
Upkeep: what desks of lines and of channels do to their ports. Main statement: every command, and the
end of the desk, keeps the ports kempt.
-/

set_option autoImplicit false

namespace Peripherals

variable {ε φ F S C α β : Type}

/-! ### What an action asks of the files -/

/-- All that the action asks of the files is of this sort. -/
def Asks (R : FileEvent → Prop) (x : Action ε (φ × FileLog) α) : Prop :=
  Logs x fun log _ => ∀ e ∈ log, R e

namespace Asks

variable {R : FileEvent → Prop} {x : Action ε (φ × FileLog) α}

theorem of_still (still : ∀ p, (x p).state.2 = p.2) : Asks R x :=
  Logs.of_still still fun _ _ member => absurd member List.not_mem_nil

private theorem pure (a : α) : Asks R (Pure.pure a : Action ε (φ × FileLog) α) :=
  of_still fun _ => rfl

theorem bind {f : α → Action ε (φ × FileLog) β} (hx : Asks R x) (hf : ∀ a, Asks R (f a)) :
    Asks R (x >>= f) := by
  refine Logs.bind hx (fun log e asks => asks) fun log a asks => ?_
  refine (hf a).weaken fun rest answer asks' e member => ?_
  rcases List.mem_append.mp member with early | late
  · exact asks e early
  · exact asks' e late

private theorem attempt {ε' : Type} (hx : Asks R x) :
    Asks R (Action.attempt x : Action ε' (φ × FileLog) (Except ε α)) :=
  hx

theorem of_single {event : Option IoError → FileEvent} {Q : Option IoError → Except ε α → Prop}
    (hx : Logs x fun log answer => ∃ cause?, log = [event cause?] ∧ Q cause? answer)
    (sort : ∀ cause?, R (event cause?)) : Asks R x := by
  refine hx.weaken fun log answer single e member => ?_
  obtain ⟨cause?, rfl, _⟩ := single
  rw [List.mem_singleton.mp member]
  exact sort cause?

private theorem isPresent (fs : FileSystem φ F) (path : Path) (sort : ∀ found, R (.looked path found)) :
    Asks R (fs.watched.isPresent path : Action ε (φ × FileLog) Bool) := by
  refine (Logs.isPresent fs path).weaken fun log answer asked e member => ?_
  obtain ⟨found, _, rfl⟩ := asked
  rw [List.mem_singleton.mp member]
  exact sort found

variable {present : Action Fault (φ × FileLog) Bool} {out back : Action Fault (φ × FileLog) Unit}
  {configure : Action Fault (φ × FileLog) α}

private theorem claim (hpresent : Asks R present) (hout : Asks R out) (hback : Asks R back)
    (hconfigure : Asks R configure) (report : Fault → Event) (make : Bool → α → C) :
    Asks R (Exporting.claim present out (Exporting.undo back report) configure make) := by
  have undoes : Asks R (Exporting.undo back report) := by
    refine hback.attempt.bind fun result => ?_
    cases result with
    | ok u => exact pure ()
    | error e => exact of_still fun _ => rfl
  have settles (exported : Bool) :
      Asks R (Exporting.settle (Exporting.undo back report) configure make exported) := by
    refine hconfigure.attempt.bind fun result => ?_
    cases result with
    | ok a => exact pure _
    | error e =>
      cases exported with
      | true => exact undoes.bind fun _ => of_still fun _ => rfl
      | false => exact of_still fun _ => rfl
  refine hpresent.bind fun present => ?_
  cases present with
  | true => exact settles false
  | false => exact hout.bind fun _ => settles true

end Asks

/-! ### Lines -/

namespace Gpio.Sysfs

variable (fs : FileSystem φ F) (g : Sysfs)

theorem ports_numbered : (g.ports (F := F)).Numbered "gpio" :=
  ⟨fun _ => rfl, by decide⟩

private theorem claim_mild (c : Config) :
    Asks ((g.ports (F := F)).Mild c.line) (claim fs.watched g c) := by
  have store {name : String} (clean : '/' ∉ name.toList) (other : name ≠ "export")
      (mild : name ≠ "enable") (value : String) : Asks ((g.ports (F := F)).Mild c.line)
        (Attribute.store fs.watched ((g.lineDir c.line).join name) value) :=
    .of_single (Logs.store fs _ _) fun cause? =>
      Ports.mild_setting g.ports_numbered clean other (absurd · mild) cause?
  have opens : Asks ((g.ports (F := F)).Mild c.line) (openValue fs.watched g c) := by
    unfold openValue
    cases c.direction with
    | input => exact .of_single (Logs.open_attribute fs _).1 (Ports.mild_opened _)
    | output => exact .of_single (Logs.open_attribute fs _).2 (Ports.mild_opened _)
  rw [claim_eq]
  refine Asks.claim (.isPresent fs _ (Ports.mild_looked _)) ?_ ?_ ?_ _ _
  · exact .of_single (g.exportLine_writes fs c.line) fun cause? => (Ports.mild_exporting cause?).1
  · exact .of_single (Logs.store fs _ _) fun cause? => (Ports.mild_exporting cause?).2
  · rw [configure_eq]
    refine (store (by decide) (by decide) (by decide) _).bind fun _ => Asks.bind ?_ fun _ => opens
    split
    · exact store (by decide) (by decide) (by decide) _
    · exact .pure ()

def running (_ : Config) : Bool := false

abbrev kempt : KeyProperty (φ × FileLog) Config (Line F) :=
  Kempt g.ports running

private theorem tends : (driver fs.watched g).device.Tends (kempt g) fun _ => True where
  claim_others c q _ bare key l differs was := by
    obtain ⟨⟨log, state, about⟩, _⟩ := bare.claim (g.claim_claims fs c) (g.claim_mild fs c)
    exact was.other g.ports_numbered state about differs
  claim_error c q f _ bare failed :=
    (bare.claim (g.claim_claims fs c) (g.claim_mild fs c)).2.1 f failed
  claim_ok c q ch _ bare opened :=
    (bare.claim (g.claim_claims fs c) (g.claim_mild fs c)).2.2 ch c opened
  windUp_others key p good other l differs was := by
    obtain ⟨⟨log, state, about⟩, _⟩ := Kempt.close good (good.2.2.2.2 rfl) (g.close_closes fs)
    exact was.other g.ports_numbered state about differs
  windUp_error key p f good failed :=
    (Kempt.close good (good.2.2.2.2 rfl) (g.close_closes fs)).2.2 p.2.settings
  windUp_ok key p good closed :=
    (Kempt.close good (good.2.2.2.2 rfl) (g.close_closes fs)).2.1

theorem dismisses : (driver fs.watched g).device.Dismisses (kempt g) := by
  intro h key q lease good
  rw [Device.dismiss_state]
  obtain ⟨⟨log, state, about⟩, bare, _⟩ := Kempt.close good (good.2.2.2.2 rfl) (g.close_closes fs)
  exact ⟨bare, fun other l differs was => was.other g.ports_numbered state about differs⟩

private theorem keeps_value {x : Action Fault ((φ × FileLog) × Attribute F) α}
    (still : ∀ q, (x q).state.1.2 = q.1.2) :
    Keeps (kempt g) (fun _ => True) (Action.zoom Lease.channelLens (Action.zoom valueLens x))
      fun _ _ => True := by
  rintro key ⟨q, lease⟩ good _
  have state : (Action.zoom Lease.channelLens (Action.zoom valueLens x) (q, lease)).state.1.2 =
      q.2 ++ [] := by
    rw [List.append_nil]
    exact still (q, lease.channel.value)
  have about : ∀ e ∈ ([] : FileLog), (g.ports (F := F)).About key e :=
    fun _ member => absurd member List.not_mem_nil
  refine ⟨good.use state about rfl good.2.1 rfl fun _ => ?_, fun other l differs was =>
    was.other g.ports_numbered state about differs, fun _ _ => trivial⟩
  rw [state, List.append_nil]
  exact good.2.2.2.2 rfl

private theorem works (k : Command) (h : Handle)
    (work : Action Fault ((φ × FileLog) × Lease Config (Line F)) Answer)
    (use : (driver fs.watched g).errand k = .use h work) :
    Keeps (kempt g) (fun _ => True) work fun _ _ => True := by
  cases k with
  | level h =>
    cases use
    refine (keeps_value g fun q => ?_).map _
    have quiet := Logs.read_still fs q
    rw [Action.bind_apply]
    split
    · exact quiet
    · exact quiet
  | drive h level =>
    cases use
    refine Keeps.map (Q := fun _ _ => True) ?_ _
    refine Keeps.bind (Q := fun _ _ => True) (.of_still (fun _ => rfl) fun _ _ _ _ => trivial) fun q => ?_
    dsimp only
    split
    · exact keeps_value g fun q => Logs.write_still fs _ q
    · exact .of_still (fun _ => rfl) fun _ _ _ answer => by cases answer
  | request c | release h | name h | direction h | line h => cases use

theorem step (k : Command) {d : Desk (φ × FileLog) Config (Line F)} (tended : d.Tended (kempt g)) :
    ((driver fs.watched g).perform k d).state.Tended (kempt g) := by
  have course := ((driver fs.watched g).errand k).course (driver fs.watched g).device .granted .done d
  rw [← (driver fs.watched g).perform_eq] at course
  exact Desk.Tended.step course (g.tends fs) (fun _ _ => trivial) (g.works fs k) tended

end Gpio.Sysfs

/-! ### Channels -/

namespace Pwm.Sysfs

variable (fs : FileSystem φ F) (s : Sysfs)

theorem ports_numbered : s.ports.Numbered "pwm" :=
  ⟨fun _ => rfl, by decide⟩

private theorem claim_mild (c : Config) : Asks (s.ports.Mild c.pin) (claim fs.watched s c) := by
  have store (name value : String) (clean : '/' ∉ name.toList) (other : name ≠ "export")
      (mild : name = "enable" → value = "0") : Asks (s.ports.Mild c.pin)
        (Attribute.store fs.watched ((s.channelDir c.pin).join name) value) :=
    .of_single (Logs.store fs _ _) (Ports.mild_setting s.ports_numbered clean other mild)
  have stands : Asks (s.ports.Mild c.pin) (standsStill fs.watched (s.channelDir c.pin)) := by
    have loads : Asks (s.ports.Mild c.pin)
        (Attribute.load fs.watched ((s.channelDir c.pin).join "enable")) := by
      refine (Logs.load fs _).weaken fun log answer opened e member => ?_
      obtain ⟨cause?, rfl⟩ := opened
      rw [List.mem_singleton.mp member]
      exact Ports.mild_opened _ _
    refine loads.attempt.bind fun result => ?_
    cases result with
    | ok value => exact .pure _
    | error e => exact .pure _
  have signal := (store "duty_cycle" "0" (by decide) (by decide) (by decide)).bind fun _ =>
    (store "period" (Text.number c.period.toNat) (by decide) (by decide)
      fun same => absurd same (by decide)).bind fun _ =>
    (store "duty_cycle" (Text.number c.duty.toNat) (by decide) (by decide)
      fun same => absurd same (by decide)).bind fun _ =>
    store "polarity" c.polarity.name (by decide) (by decide) fun same => absurd same (by decide)
  rw [claim_eq]
  refine Asks.claim (.isPresent fs _ (Ports.mild_looked _)) ?_ ?_ ?_ _ _
  · exact .of_single (s.exportChannel_writes fs c.pin) fun cause? => (Ports.mild_exporting cause?).1
  · exact .of_single (Logs.store fs _ _) fun cause? => (Ports.mild_exporting cause?).2
  · refine stands.bind fun still => ?_
    cases still with
    | true => exact signal
    | false =>
      exact (store "enable" "0" (by decide) (by decide) fun _ => rfl).bind fun _ => signal

abbrev kempt : KeyProperty (φ × FileLog) Signal Channel :=
  Kempt s.ports Signal.running

private theorem name_plain (part : Part) : '/' ∉ part.name.toList ∧ part.name ≠ "export" := by
  cases part <;> decide

/-- What a verb asks of the files of a channel. -/
def asking (verb : Verb) (key : UInt32) (cause? : Option IoError) : FileEvent :=
  .wrote (s.partPath key (verbPart verb)) (Text.bytesOf (verbValue verb)) cause?

private theorem turn_asks (verb : Verb) {key : UInt32} {q : φ × FileLog} {lease : Lease Signal Channel}
    (own : s.ports.own key lease.channel) : ∃ cause?,
      ((driver fs.watched s).turn verb (q, lease)).state.1.2 = q.2 ++ [s.asking verb key cause?] ∧
      ((driver fs.watched s).turn verb (q, lease)).state.2 =
        ⟨if cause? = none then verb.note lease.settings else lease.settings, lease.channel⟩ := by
  obtain ⟨_, after⟩ := (driver fs.watched s).turn_apply verb (q, lease)
  rw [after, calls_apply fs.watched verb q own.2]
  obtain ⟨log, state, cause?, rfl, fails⟩ :=
    Logs.store fs (s.partPath key (verbPart verb)) (verbValue verb) q
  refine ⟨cause?, state, ?_⟩
  cases answer : (Attribute.store fs.watched (s.partPath key (verbPart verb))
      (verbValue verb) q).answer with
  | ok u =>
    rw [answer] at fails
    cases cause? with
    | none => rfl
    | some e => cases fails
  | error f =>
    rw [answer] at fails
    cases cause? with
    | none => cases fails
    | some e => rfl

private theorem honored_of_stop {key : UInt32} {log : FileLog}
    (pending : (s.ports.switch key).Pending log)
    (cause? : Option IoError) :
    (s.ports.switch key).Honored (log ++ [s.asking (.setRunning false) key cause?]) :=
  pending.redeem ⟨cause?, rfl⟩ fun same => absurd (FileEvent.wrote.inj same).2.1 (by decide)

private theorem asking_unmade (verb : Verb) {key : UInt32} {cause? : Option IoError}
    (harmless : verb = .setRunning true → cause? ≠ none) :
    (s.ports.switch key).made ∉ [s.asking verb key cause?] := by
  intro member
  have same := List.mem_singleton.mp member
  by_cases start : verb = .setRunning true
  · exact harmless start (FileEvent.wrote.inj same).2.2.symm
  · obtain ⟨clean, other⟩ := name_plain (verbPart verb)
    refine (Ports.mild_setting s.ports_numbered clean other (fun enables => ?_) cause?).2 same.symm
    have part : verbPart verb = .enable := Part.name_injective enables
    cases verb with
    | setRunning on =>
      cases on with
      | true => exact absurd rfl start
      | false => rfl
    | setPeriod period | setDuty duty | setPolarity polarity => cases part

private theorem keeps_turn (verb : Verb) {key : UInt32} {p : (φ × FileLog) × Lease Signal Channel}
    (good : kempt s key p.1 (some p.2)) :
    let r := (driver fs.watched s).turn verb p
    kempt s key r.state.1 (some r.state.2) ∧
      (verb = .setRunning false → (s.ports.switch key).Honored r.state.1.2) ∧
      ∀ other l, other ≠ key → kempt s other p.1 l → kempt s other r.state.1 l := by
  intro r
  obtain ⟨q, lease⟩ := p
  obtain ⟨_, own, _, pending, honored⟩ := id good
  obtain ⟨cause?, state, left⟩ := s.turn_asks fs verb (q := q) own
  obtain ⟨clean, plain⟩ := name_plain (verbPart verb)
  have about : ∀ e ∈ [s.asking verb key cause?], s.ports.About key e := by
    intro e member
    rw [List.mem_singleton.mp member]
    exact .setting _ _ cause? clean plain
  have stops (stop : verb = .setRunning false) : (s.ports.switch key).Honored r.state.1.2 := by
    subst stop
    rw [show r.state.1.2 = _ from state]
    exact s.honored_of_stop pending cause?
  refine ⟨?_, stops, fun other l differs was => was.other s.ports_numbered state about differs⟩
  rw [show r.state.2 = _ from left]
  refine good.use state about (Ports.traffic_singleton (s.attribute_not_isPort key _)) own rfl
    fun still => ?_
  by_cases stop : verb = .setRunning false
  · exact stops stop
  · -- Any other verb that leaves the record at rest found it at rest.
    rw [show r.state.1.2 = _ from state]
    refine (honored ?_).append (s.asking_unmade verb fun start succeeds => ?_)
    · cases verb with
      | setRunning on =>
        cases on with
        | false => exact absurd rfl stop
        | true =>
          cases cause? with
          | none => cases still
          | some e => exact still
      | setPeriod period | setDuty duty | setPolarity polarity =>
        cases cause? with
        | none => exact still
        | some e => exact still
    · subst start succeeds
      cases still

theorem tends : (driver fs.watched s).Tends (kempt s) where
  claim_others c q _ bare key l differs was := by
    obtain ⟨⟨log, state, about⟩, _⟩ := bare.claim (s.claim_claims fs c) (s.claim_mild fs c)
    exact was.other s.ports_numbered state about differs
  claim_error c q f _ bare failed :=
    (bare.claim (s.claim_claims fs c) (s.claim_mild fs c)).2.1 f failed
  claim_ok c q ch _ bare opened :=
    (bare.claim (s.claim_claims fs c) (s.claim_mild fs c)).2.2 ch ⟨c, false⟩ opened
  turn verb key p good _ := by
    obtain ⟨kept, _, others⟩ := s.keeps_turn fs verb good
    exact ⟨kept, others⟩
  close_others key q lease good rest other l differs was := by
    obtain ⟨⟨log, state, about⟩, _⟩ := Kempt.close good (good.2.2.2.2 rest) (s.close_closes fs)
    exact was.other s.ports_numbered state about differs
  close_error key q lease f good rest _ :=
    (Kempt.close good (good.2.2.2.2 rest) (s.close_closes fs)).2.2 lease.settings
  close_ok key q lease good rest _ :=
    (Kempt.close good (good.2.2.2.2 rest) (s.close_closes fs)).2.1

/-- A channel that is dismissed is switched off before it is closed, even if that fails. -/
theorem dismisses : (driver fs.watched s).device.Dismisses (kempt s) := by
  intro h key q lease good
  rw [Device.dismiss_state]
  have rests : let r := (driver fs.watched s).halt (q, lease)
      kempt s key r.state.1 (some r.state.2) ∧ (s.ports.switch key).Honored r.state.1.2 ∧
        ∀ other l, other ≠ key → kempt s other q l → kempt s other r.state.1 l := by
    rw [Driver.halt_apply]
    split
    · obtain ⟨kept, stops, others⟩ := s.keeps_turn fs (.setRunning false) (p := (q, lease)) good
      exact ⟨kept, stops rfl, others⟩
    · next still =>
      exact ⟨good, good.2.2.2.2 (Bool.eq_false_iff.mpr still), fun _ _ _ was => was⟩
  obtain ⟨kept, still, others⟩ := rests
  obtain ⟨⟨log, state, about⟩, bare, _⟩ := Kempt.close kept still (s.close_closes fs)
  refine ⟨bare, fun other l differs was => ?_⟩
  exact (others other l differs was).other s.ports_numbered state about differs

end Pwm.Sysfs

end Peripherals

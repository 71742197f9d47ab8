import Peripherals.Proofs.Files.Upkeep
import Peripherals.Proofs.Rig.Modules
/-!
Modules over files under watch. Main statement: whatever a module works on, its commands and its end
leave the log of the files tidy.
-/

set_option autoImplicit false

namespace Peripherals

open Peripherals.Action (Leads Maintains)

variable {φ F W σ C : Type}

/-! ### What every call keeps -/

/-- Every call to the device keeps a property of it. -/
def Manager.Stays (G : W → Prop) : Manager W → Prop
  | .adc d => (∀ c s, G s → G (d.claim c s).state) ∧ (∀ p, G p.1 → G (d.read p).state.1) ∧
      ∀ p, G p.1 → G (d.close p).state.1
  | .gpio d => (∀ c s, G s → G (d.claim c s).state) ∧ (∀ p, G p.1 → G (d.read p).state.1) ∧
      (∀ level p, G p.1 → G (d.write level p).state.1) ∧ ∀ p, G p.1 → G (d.close p).state.1
  | .pwm d => (∀ c s, G s → G (d.claim c s).state) ∧
      (∀ verb p, G p.1 → G (d.calls verb p).state.1) ∧ ∀ p, G p.1 → G (d.close p).state.1

namespace Manager.Stays

variable {G : W → Prop}

private theorem tends {d : Pwm.Driver W C} (stays : Manager.Stays G (.pwm d)) :
    d.Tends fun _ s _ => G s where
  claim_others c s _ good _ _ _ _ := stays.1 c s good
  claim_error c s _ _ good _ := stays.1 c s good
  claim_ok c s _ _ good _ := stays.1 c s good
  turn verb key p good _ := by
    rw [(d.turn_apply verb p).2]
    have kept := stays.2.1 verb (p.1, p.2.channel) good
    exact ⟨kept, fun _ _ _ _ => kept⟩
  close_others _ s lease good _ _ _ _ _ := stays.2.2 (s, lease.channel) good
  close_error _ s lease _ good _ _ := stays.2.2 (s, lease.channel) good
  close_ok _ s lease good _ _ := stays.2.2 (s, lease.channel) good

variable {m : Manager W}

private theorem claims (stays : m.Stays G) (s : m.Settings) (w : W) (good : G w) :
    G (m.device.claim s w).state := by
  cases m with
  | adc d | gpio d => exact stays.1 s w good
  | pwm d => exact stays.1 s.config w good

private theorem rests (stays : m.Stays G) (p : W × Lease m.Settings m.Channel) (good : G p.1) :
    G (m.device.rest p).state.1 := by
  cases m with
  | adc d | gpio d => exact good
  | pwm d => exact (stays.tends.keeps_halt 0 p good trivial).1

private theorem closes (stays : m.Stays G) (p : W × Lease m.Settings m.Channel) (good : G p.1) :
    G (m.device.close p).state.1 := by
  cases m with
  | adc d => exact stays.2.2 (p.1, p.2.channel) good
  | gpio d => exact stays.2.2.2 (p.1, p.2.channel) good
  | pwm d => exact stays.2.2 (p.1, p.2.channel) good

private theorem works (stays : m.Stays G) (k : m.Command) (h : Handle)
    (work : Action Fault (W × Lease m.Settings m.Channel) m.Answer) (use : m.errand k = .use h work)
    (p : W × Lease m.Settings m.Channel) (good : G p.1) : G (work p).state.1 := by
  cases m with
  | adc d =>
    have reads : Maintains (fun p => G p.1)
        (Action.zoom Lease.channelLens d.read : Action Fault (W × Lease Adc.Config _) Int32) :=
      .of_keeps fun p good => stays.2.1 (p.1, p.2.channel) good
    cases k with
    | value h =>
      cases use
      exact (reads.map _).keeps good
    | request c | release h | config h => cases use
  | gpio d =>
    have reads : Maintains (fun p => G p.1)
        (Action.zoom Lease.channelLens d.read : Action Fault (W × Lease Gpio.Config _) Bool) :=
      .of_keeps fun p good => stays.2.1 (p.1, p.2.channel) good
    have drives (level : Bool) : Maintains (fun p => G p.1) (d.driveLine level) := by
      refine Leads.bind (Q := fun _ p => G p.1) (.of_keeps fun _ kept => kept) fun p => ?_
      dsimp only
      split
      · exact .of_keeps fun p good => stays.2.2.1 level (p.1, p.2.channel) good
      · exact Maintains.fail
    cases k with
    | level h =>
      cases use
      exact (reads.map _).keeps good
    | drive h level =>
      cases use
      exact ((drives level).map _).keeps good
    | request c | release h | name h | direction h | line h => cases use
  | pwm d => exact (stays.tends.works k h work use 0 p good trivial).1

private theorem windUp (stays : m.Stays G) (p : W × Lease m.Settings m.Channel) (good : G p.1) :
    G (m.device.windUp p).state.1 := by
  cases answer : (m.device.rest p).answer with
  | error f =>
    rw [((m.device.windUp_apply p).1 f answer).2]
    exact stays.rests p good
  | ok u =>
    rw [((m.device.windUp_apply p).2 answer).2]
    exact stays.closes _ (stays.rests p good)

private theorem perform (stays : m.Stays G) (k : m.Command) (d : Desk W m.Settings m.Channel)
    (good : G d.device) : G (m.perform k d).state.device :=
  (m.course k d).device_related (R := fun s s' => G s → G s') (fun _ => id) stays.claims
    (stays.works k) stays.windUp good

private theorem teardown (stays : m.Stays G) (d : Desk W m.Settings m.Channel) (good : G d.device) :
    G (m.device.teardown d).state.device := by
  change G (m.device.dismissAll d.leases.entries d.device).state
  generalize d.leases.entries = leftover
  generalize d.device = w at good
  induction leftover generalizing w with
  | nil => exact good
  | cons e rest ih =>
    obtain ⟨h, key, lease⟩ := e
    rw [Device.dismissAll_cons, Device.dismiss_state]
    exact ih _ (stays.closes _ (stays.rests (w, lease) good))

end Manager.Stays

/-! ### Tidy logs -/

/-- From any desk with `D`, commands lead to desks with `D`, and the end of the desk to a tidy log.
Whether a desk has `D` shows in its leases and in the log; a desk without leases has it as long as
nothing was written. -/
structure Manager.Serves (m : Manager (World (φ × FileLog)))
    (D : Desk (World (φ × FileLog)) m.Settings m.Channel → Prop) : Prop where
  perform : ∀ k d, D d → D (m.perform k d).state
  teardown : ∀ d, D d → (m.device.teardown d).state.device.files.2.Tidy
  drift : ∀ d w, w.files.2 = d.device.files.2 → D d → D { d with device := w }
  idle : ∀ w counter, w.files.2.Unwritten → D ⟨w, counter, ∅⟩

private theorem Manager.Stays.serves {m : Manager (World (φ × FileLog))}
    (stays : m.Stays fun w => w.files.2.Unwritten) :
    m.Serves fun d => d.device.files.2.Unwritten where
  perform := stays.perform
  teardown d good := (stays.teardown d good).tidy
  drift d w same good := by
    change w.files.2.Unwritten
    rw [same]
    exact good
  idle _ _ unwritten := unwritten

private theorem World.filesLens_mirrors {ε α : Type} (x : Action ε φ α) :
    Action.Mirrors World.files id (Action.zoom World.filesLens x) x :=
  zoom_mirrors World.filesLens (fun _ _ => rfl) x

private theorem World.filesLens_beside_mirrors {ε α : Type} (x : Action ε (φ × C) α) :
    Action.Mirrors (Prod.map World.files id) id (Action.zoom World.filesLens.beside x) x :=
  zoom_mirrors (World.filesLens.beside : Lens (World φ × C) (φ × C)) (fun _ _ => rfl) x

private theorem Kempt.of_log {S : Type} {p : Ports C} {running : S → Bool} {key : UInt32}
    {q q' : φ × FileLog}
    {l : Option (Lease S C)} (kempt : Kempt p running key q l) (same : q'.2 = q.2) :
    Kempt p running key q' l := by
  obtain ⟨s, log⟩ := q
  obtain ⟨s', log'⟩ := q'
  obtain rfl : log' = log := same
  cases l with
  | none => exact kempt
  | some lease => exact kempt

/-- A desk whose ports are kempt, seen over its files alone. -/
def Desk.Kempt {S : Type} (p : Ports C) (running : S → Bool)
    (d : Desk (World (φ × FileLog)) S C) : Prop :=
  (d.seen World.files id).Tended (Peripherals.Kempt p running)

namespace Desk.Kempt

variable {S : Type} {p : Ports C} {running : S → Bool} {d : Desk (World (φ × FileLog)) S C}

private theorem drift {w : World (φ × FileLog)} (same : w.files.2 = d.device.files.2)
    (kempt : d.Kempt p running) : ({ d with device := w } : Desk _ S C).Kempt p running where
  sound := kempt.sound
  holds key := (kempt.holds key).of_log same

private theorem idle {w : World (φ × FileLog)} (unwritten : w.files.2.Unwritten) (counter : Nat) :
    (⟨w, counter, ∅⟩ : Desk _ S C).Kempt p running :=
  Desk.Tended.vacant (fun key => Peripherals.Kempt.start key unwritten) counter

private theorem teardown {stem : String} (numbered : p.Numbered stem)
    (tells : ∀ pin key, Path.numbered "pwm" pin = Path.numbered stem key → pin = key)
    {dev : Device (World (φ × FileLog)) S C} {bare : Device (φ × FileLog) S C}
    (seen : dev.SeenAs World.files id bare)
    (dismisses : bare.Dismisses (Peripherals.Kempt p running)) (kempt : d.Kempt p running) :
    (dev.teardown d).state.device.files.2.Tidy := by
  have all := kempt.dismissAll dismisses (.refl _)
  have mirrored : (bare.dismissAll (d.seen World.files id).leases.entries
      (d.seen World.files id).device).state = (dev.teardown d).state.device.files :=
    congrArg (fun o => o.state.device) (seen.teardown d)
  rw [mirrored] at all
  exact Peripherals.Kempt.tidy numbered tells all

end Desk.Kempt

/-! ### Modules of all kinds -/

section

variable (fs : FileSystem φ F)

private theorem Gpio.Sysfs.serves (g : Gpio.Sysfs) :
    (Manager.gpio ((Gpio.Sysfs.driver fs.watched g).zoom World.filesLens)).Serves
      (Desk.Kempt g.ports Gpio.Sysfs.running) := by
  have seen : ((Gpio.Sysfs.driver fs.watched g).zoom World.filesLens).SeenAs World.files id
      (Gpio.Sysfs.driver fs.watched g) :=
    { name := rfl
      claim := fun _ => World.filesLens_mirrors _
      read := World.filesLens_beside_mirrors _
      write := fun _ => World.filesLens_beside_mirrors _
      close := World.filesLens_beside_mirrors _ }
  refine ⟨fun k d kempt => ?_, fun d kempt => ?_, fun d w => Desk.Kempt.drift,
    fun w counter unwritten => Desk.Kempt.idle unwritten counter⟩
  · exact (Maintains.of_mirrors (seen.perform k) (.of_keeps fun _ => g.step fs k)).keeps kempt
  · refine kempt.teardown g.ports_numbered (fun pin key same => ?_) seen.device (g.dismisses fs)
    have texts := congrArg String.toList same
    rw [(Path.numbered_text "pwm" pin).2, (Path.numbered_text "gpio" key).2] at texts
    exact absurd (List.cons.inj texts).1 (by decide)

private theorem Pwm.Sysfs.serves (s : Pwm.Sysfs) :
    (Manager.pwm ((Pwm.Sysfs.driver fs.watched s).zoom World.filesLens)).Serves
      (Desk.Kempt s.ports Pwm.Signal.running) := by
  have seen : ((Pwm.Sysfs.driver fs.watched s).zoom World.filesLens).SeenAs World.files id
      (Pwm.Sysfs.driver fs.watched s) :=
    { name := rfl
      claim := fun _ => World.filesLens_mirrors _
      calls := fun verb => by cases verb <;> exact World.filesLens_beside_mirrors _
      close := World.filesLens_beside_mirrors _ }
  refine ⟨fun k d kempt => ?_, fun d kempt => ?_, fun d w => Desk.Kempt.drift,
    fun w counter unwritten => Desk.Kempt.idle unwritten counter⟩
  · exact (Maintains.of_mirrors (seen.perform k) (.of_keeps fun _ => (s.tends fs).step k)).keeps kempt
  · exact kempt.teardown s.ports_numbered (fun _ _ => Path.numbered_injective) seen.device
      (s.dismisses fs)

private theorem Asks.unwritten {ε α : Type} {x : Action ε (φ × FileLog) α}
    (asks : Asks (fun e => ∀ path bytes cause?, e ≠ .wrote path bytes cause?) x) :
    Maintains (fun q => q.2.Unwritten) x := by
  refine .of_keeps fun q unwritten => ?_
  obtain ⟨log, state, reads⟩ := asks q
  rw [state]
  intro path bytes cause? member
  rcases List.mem_append.mp member with early | late
  · exact unwritten path bytes cause? early
  · exact reads _ late path bytes cause? rfl

private theorem Adc.Iio.read_still (i : Adc.Iio) (p : (φ × FileLog) × Adc.Iio.Channel F) :
    ((i.driver fs.watched).read p).state.1.2 = p.1.2 := by
  have reads : Maintains (fun q : (φ × FileLog) × Attribute F => q.1.2 = p.1.2) (do
      let value ← Attribute.read fs.watched
      Action.ofExcept (Adc.Iio.countOf (← Action.get).2.path value)) :=
    Leads.bind (Q := fun _ q => q.1.2 = p.1.2)
      (.of_keeps fun q kept => (Logs.read_still fs q).trans kept) fun _ => .of_keeps fun _ kept => kept
  exact reads.keeps (s := (p.1, p.2.raw)) rfl

private theorem Adc.Rtos.read_still (r : Adc.Rtos) (p : (φ × FileLog) × Adc.Rtos.Channel F) :
    ((r.driver fs.watched).read p).state.1.2 = p.1.2 := by
  have picks (path : Path) (pin : UInt32) (bytes : List UInt8) :
      Maintains (fun q : (φ × FileLog) × Adc.Rtos.Channel F => q.1.2 = p.1.2)
        (Adc.Rtos.pick path pin bytes) := by
    unfold Adc.Rtos.pick
    split
    · exact Maintains.fail
    · refine Leads.bind (Q := fun _ q => q.1.2 = p.1.2) (.of_keeps fun _ kept => kept) fun _ => ?_
      split
      · exact Maintains.pure
      · exact Maintains.fail
  have rest : Maintains (fun q : (φ × FileLog) × Adc.Rtos.Channel F => q.1.2 = p.1.2) (do
      let bytes ← Adc.Rtos.onFile (fs.watched.readUpTo (Adc.Sample.size * Adc.Rtos.samplesPerRead))
      let channel := (← Action.get).2
      Adc.Rtos.pick channel.path channel.pin bytes) :=
    Leads.bind (Q := fun _ q => q.1.2 = p.1.2) (.of_keeps fun _ kept => kept) fun _ =>
      Leads.bind (Q := fun _ q => q.1.2 = p.1.2) (.of_keeps fun _ kept => kept) fun _ => picks _ _ _
  obtain ⟨root, device, trigger⟩ := r
  have starts {x : Action Fault ((φ × FileLog) × Adc.Rtos.Channel F) Unit}
      (still : ∀ q, (x q).state.1.2 = q.1.2) : Maintains (fun q => q.1.2 = p.1.2) x :=
    .of_keeps fun q kept => (still q).trans kept
  cases trigger with
  | some request =>
    exact ((starts (x := Adc.Rtos.onFile (fs.watched.control request)) fun _ => rfl).bind
      fun _ => rest).keeps rfl
  | none =>
    exact ((starts (x := Adc.Rtos.onFile fs.watched.rewind) fun _ => rfl).bind
      fun _ => rest).keeps rfl

private theorem Adc.Backend.stays (b : Adc.Backend) :
    (Manager.adc (b.driver fs.watched)).Stays fun w => w.files.2.Unwritten := by
  have opens (path : Path) : Asks (fun e => ∀ path bytes cause?, e ≠ .wrote path bytes cause?)
      (Attribute.openRead fs.watched path) :=
    .of_single (Logs.open_attribute fs path).1 fun cause? _ _ _ same => by cases same
  have opened (path : Path) : Asks (fun e => ∀ path bytes cause?, e ≠ .wrote path bytes cause?)
      (Action.mapError (Fault.ofIo path) (fs.watched.openRead path)) := by
    intro q
    refine ⟨_, rfl, fun e member _ _ _ same => ?_⟩
    rw [List.mem_singleton.mp member] at same
    cases same
  have unread {log log' : FileLog} (unwritten : log.Unwritten) (same : log' = log) :
      log'.Unwritten := same ▸ unwritten
  cases b with
  | simulated serial channels | recorded serial | quiet =>
    exact ⟨fun _ _ good => good, fun _ good => good, fun _ good => good⟩
  | iio i =>
    refine ⟨fun c w good => ?_, fun p good => ?_, fun _ good => good⟩
    · exact ((opens _).bind fun _ => .of_still fun _ => rfl).unwritten.keeps (s := w.files) good
    · exact unread good (i.read_still fs (p.1.files, p.2))
  | rtos r =>
    refine ⟨fun c w good => ?_, fun p good => ?_, fun _ good => good⟩
    · change ((if 255 < c.pin.toNat then _ else _ :
        Action Fault (φ × FileLog) (Adc.Rtos.Channel F)) w.files).state.2.Unwritten
      split
      · exact good
      · exact ((opened r.devicePath).bind fun _ => .of_still fun _ => rfl).unwritten.keeps
          (s := w.files) good
    · exact unread good (r.read_still fs (p.1.files, p.2))

/-- Whatever a module works on, there is a sort of desks that it starts with and stays at. -/
theorem AnyModule.exists_serves (x : AnyModule F) : ∃ D, (x.manager fs.watched).Serves D := by
  cases x with
  | adc m => exact ⟨_, (m.backend.stays fs).serves⟩
  | gpio m =>
    obtain ⟨backend, leases⟩ := m
    cases backend with
    | sysfs g => exact ⟨_, g.serves fs⟩
    | simulated serial | recorded serial | quiet =>
      exact ⟨_, Manager.Stays.serves ⟨fun _ _ good => good, fun _ good => good,
        fun _ _ good => good, fun _ good => good⟩⟩
  | pwm m =>
    obtain ⟨backend, leases⟩ := m
    cases backend with
    | sysfs s => exact ⟨_, s.serves fs⟩
    | simulated serial | recorded serial | quiet =>
      exact ⟨_, Manager.Stays.serves ⟨fun _ _ good => good,
        fun verb _ good => by cases verb <;> exact good, fun _ good => good⟩⟩

end

end Peripherals

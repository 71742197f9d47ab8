import Peripherals.Proofs.Rig.Commands
import Peripherals.Proofs.Rig.Faults
/-!
The modules of a rig. Main statements: a command to a module is one to its desk and touches no other
module, and its fault tells whether the key or the handle that it is about is in use there.
-/

set_option autoImplicit false

namespace Peripherals

variable {φ F : Type}

/-! ### Modules of all kinds -/

/-- A module of any kind. -/
inductive AnyModule (F : Type) where
  | adc (m : Adc.Module F)
  | gpio (m : Gpio.Module F)
  | pwm (m : Pwm.Module)

namespace AnyModule

def kind : AnyModule F → ModuleKind
  | .adc _ => .adc
  | .gpio _ => .gpio
  | .pwm _ => .pwm

def keyOf? : AnyModule F → Handle → Option UInt32
  | .adc m => m.leases.keyOf?
  | .gpio m => m.leases.keyOf?
  | .pwm m => m.leases.keyOf?

def Sound (counter : Nat) : AnyModule F → Prop
  | .adc m => m.leases.Sound counter
  | .gpio m => m.leases.Sound counter
  | .pwm m => m.leases.Sound counter

theorem Sound.mono {x : AnyModule F} {counter later : Nat} (sound : x.Sound counter)
    (h : counter ≤ later) : x.Sound later := by
  cases x with
  | adc m | gpio m | pwm m => exact HandleTable.Sound.mono sound h

private theorem Sound.handle_unique {x : AnyModule F} {counter : Nat} (sound : x.Sound counter)
    {h h' : Handle} {key : UInt32} (held : x.keyOf? h = some key) (held' : x.keyOf? h' = some key) :
    h = h' := by
  cases x with
  | adc m | gpio m | pwm m =>
    obtain ⟨_, slot⟩ := HandleTable.keyOf?_eq_some_iff.mp held
    obtain ⟨_, slot'⟩ := HandleTable.keyOf?_eq_some_iff.mp held'
    exact HandleTable.Sound.handle_unique sound slot slot'

variable (fs : FileSystem φ F)

def manager : AnyModule F → Manager (World φ)
  | .adc m => .adc (m.backend.driver fs)
  | .gpio m => .gpio (m.backend.driver fs)
  | .pwm m => .pwm (m.backend.driver fs)

def leases : (x : AnyModule F) →
    HandleTable UInt32 (Lease (x.manager fs).Settings (x.manager fs).Channel)
  | .adc m => m.leases
  | .gpio m => m.leases
  | .pwm m => m.leases

def relet : (x : AnyModule F) →
    HandleTable UInt32 (Lease (x.manager fs).Settings (x.manager fs).Channel) → AnyModule F
  | .adc m, leases => .adc ⟨m.backend, leases⟩
  | .gpio m, leases => .gpio ⟨m.backend, leases⟩
  | .pwm m, leases => .pwm ⟨m.backend, leases⟩

private theorem aloof (x : AnyModule F) : (x.manager fs).Aloof := by
  cases x with
  | adc m => exact m.backend.aloof fs
  | gpio m => exact m.backend.aloof fs
  | pwm m => exact m.backend.aloof fs

private theorem exists_lift (x : AnyModule F) {k : ModuleCommand} (own : k.kind = x.kind) :
    ∃ k', (x.manager fs).lift k' = k := by
  cases x with
  | adc m =>
    cases k with
    | adc k => exact ⟨k, rfl⟩
    | gpio k | pwm k => cases own
  | gpio m =>
    cases k with
    | gpio k => exact ⟨k, rfl⟩
    | adc k | pwm k => cases own
  | pwm m =>
    cases k with
    | pwm k => exact ⟨k, rfl⟩
    | adc k | gpio k => cases own

theorem keyOf?_leases (x : AnyModule F) : (x.leases fs).keyOf? = x.keyOf? := by
  cases x <;> rfl

theorem sound_leases (x : AnyModule F) (counter : Nat) :
    (x.leases fs).Sound counter ↔ x.Sound counter := by
  cases x <;> rfl

variable {fs} {x : AnyModule F}
  (leases : HandleTable UInt32 (Lease (x.manager fs).Settings (x.manager fs).Channel))

theorem kind_relet : (x.relet fs leases).kind = x.kind := by
  cases x <;> rfl

private theorem keyOf?_relet : (x.relet fs leases).keyOf? = leases.keyOf? := by
  cases x <;> rfl

private theorem sound_relet (counter : Nat) :
    (x.relet fs leases).Sound counter ↔ leases.Sound counter := by
  cases x <;> rfl

end AnyModule

namespace Rig

def module? (r : Rig φ F) (m : ModuleRef) : Option (AnyModule F) :=
  match m.kind with
  | .adc => (r.adcs.get? m.serial).map .adc
  | .gpio => (r.gpios.get? m.serial).map .gpio
  | .pwm => (r.pwms.get? m.serial).map .pwm

def seat (serial : Nat) (x : AnyModule F) (r : Rig φ F) : Rig φ F :=
  match x with
  | .adc m => { r with adcs := r.adcs.put serial m }
  | .gpio m => { r with gpios := r.gpios.put serial m }
  | .pwm m => { r with pwms := r.pwms.put serial m }

def keyOf? (r : Rig φ F) (m : ModuleRef) (h : Handle) : Option UInt32 :=
  (r.module? m).bind fun x => x.keyOf? h

theorem kind_of_module? {r : Rig φ F} {m : ModuleRef} {x : AnyModule F}
    (found : r.module? m = some x) : x.kind = m.kind := by
  unfold module? at found
  split at found
  all_goals
    obtain ⟨_, _, rfl⟩ := Option.map_eq_some_iff.mp found
    simp [AnyModule.kind, *]

theorem module?_seat (serial : Nat) (x : AnyModule F) (r : Rig φ F) (m : ModuleRef) :
    (r.seat serial x).module? m = if m = ⟨x.kind, serial⟩ then some x else r.module? m := by
  obtain ⟨kind, serial'⟩ := m
  cases x <;> cases kind <;>
    simp only [seat, module?, AnyModule.kind, ModuleRef.mk.injEq, reduceCtorEq, false_and, true_and,
      if_false, Assoc.get?_put] <;>
    split <;> rfl

/-! ### What comes of a command -/

variable (fs : FileSystem φ F) (r : Rig φ F) (serial : Nat)

private theorem perform_absent {k : ModuleCommand} (absent : r.module? ⟨k.kind, serial⟩ = none) :
    perform fs serial k r = ⟨.error (gone k.kind), [], r⟩ := by
  cases k
  all_goals
    have none_there := Option.map_eq_none_iff.mp absent
    simp only at none_there
    simp only [perform, Action.map_apply, onAdc, onGpio, onPwm, none_there]
    rfl

end Rig

def AnyModule.desk (x : AnyModule F) (fs : FileSystem φ F) (r : Rig φ F) :
    Desk (World φ) (x.manager fs).Settings (x.manager fs).Channel :=
  ⟨r.world, r.counter, x.leases fs⟩

/-- The rig after its module has worked at its desk. -/
def Rig.back (r : Rig φ F) (serial : Nat) (fs : FileSystem φ F) (x : AnyModule F)
    (d : Desk (World φ) (x.manager fs).Settings (x.manager fs).Channel) : Rig φ F :=
  { r with world := d.device, counter := d.counter }.seat serial (x.relet fs d.leases)

namespace Rig

variable (fs : FileSystem φ F) (r : Rig φ F) (serial : Nat)

private theorem perform_present {m : ModuleRef} {x : AnyModule F} (present : r.module? m = some x)
    (k : (x.manager fs).Command) :
    let o := (x.manager fs).perform k (x.desk fs r)
    perform fs m.serial ((x.manager fs).lift k) r =
      ⟨o.answer.map (x.manager fs).liftAnswer, o.events, r.back m.serial fs x o.state⟩ := by
  obtain ⟨kind, serial⟩ := m
  unfold module? at present
  cases kind
  all_goals
    obtain ⟨a, found, rfl⟩ := Option.map_eq_some_iff.mp present
    simp only at found
    simp only [perform, AnyModule.manager, Manager.lift, Action.map_apply, onAdc, onGpio, onPwm,
      found]
    rfl

private theorem perform_cases (k : ModuleCommand) :
    (r.module? ⟨k.kind, serial⟩ = none ∧ perform fs serial k r = ⟨.error (gone k.kind), [], r⟩) ∨
      ∃ (x : AnyModule F) (k' : (x.manager fs).Command), r.module? ⟨k.kind, serial⟩ = some x ∧
        (x.manager fs).lift k' = k ∧
        (perform fs serial k r).answer =
          ((x.manager fs).perform k' (x.desk fs r)).answer.map (x.manager fs).liftAnswer ∧
        (perform fs serial k r).state =
          r.back serial fs x ((x.manager fs).perform k' (x.desk fs r)).state := by
  cases present : r.module? ⟨k.kind, serial⟩ with
  | none => exact .inl ⟨rfl, perform_absent fs r serial present⟩
  | some x =>
    obtain ⟨k', rfl⟩ := x.exists_lift fs (r.kind_of_module? present).symm
    have served := perform_present fs r present k'
    exact .inr ⟨x, k', rfl, rfl, by rw [served], by rw [served]⟩

theorem fields_back (x : AnyModule F)
    (d : Desk (World φ) (x.manager fs).Settings (x.manager fs).Channel) :
    (r.back serial fs x d).world = d.device ∧ (r.back serial fs x d).counter = d.counter ∧
      (r.back serial fs x d).nextSerial = r.nextSerial := by
  cases x <;> exact ⟨rfl, rfl, rfl⟩

theorem module?_back (x : AnyModule F)
    (d : Desk (World φ) (x.manager fs).Settings (x.manager fs).Channel) (m : ModuleRef) :
    (r.back serial fs x d).module? m =
      if m = ⟨x.kind, serial⟩ then some (x.relet fs d.leases) else r.module? m := by
  refine (module?_seat _ _ _ _).trans ?_
  rw [AnyModule.kind_relet]
  rfl

private theorem keyOf?_back (x : AnyModule F)
    (d : Desk (World φ) (x.manager fs).Settings (x.manager fs).Channel) (m : ModuleRef) (h : Handle) :
    (r.back serial fs x d).keyOf? m h =
      if m = ⟨x.kind, serial⟩ then d.leases.keyOf? h else r.keyOf? m h := by
  unfold keyOf?
  rw [module?_back]
  split
  · rw [Option.bind_some, AnyModule.keyOf?_relet]
  · rfl

private theorem keyOf?_desk {r : Rig φ F} {m : ModuleRef} {x : AnyModule F}
    (present : r.module? m = some x) :
    r.keyOf? m = (x.desk fs r).leases.keyOf? := by
  funext h
  unfold keyOf?
  rw [present, Option.bind_some, ← x.keyOf?_leases fs]
  rfl

/-- A command shifts the handles of its own module and of no other. -/
theorem perform_shifts (k : ModuleCommand) :
    let o := perform fs serial k r
    Use.Shifts ⟨⟨k.kind, serial⟩, k, o.answer⟩ r.counter o.state.counter
        (r.keyOf? ⟨k.kind, serial⟩) (o.state.keyOf? ⟨k.kind, serial⟩) ∧
      ∀ m, m ≠ ⟨k.kind, serial⟩ → o.state.keyOf? m = r.keyOf? m := by
  intro o
  rcases r.perform_cases fs serial k with ⟨_, gone⟩ | ⟨x, k', present, rfl, answer, state⟩
  · rw [show o = _ from gone]
    exact ⟨.still (Use.issue?_of_error rfl) (Use.return?_of_error rfl) rfl fun _ => rfl,
      fun _ _ => rfl⟩
  · have kind := r.kind_of_module? present
    have before := keyOf?_desk fs present
    have after (m : ModuleRef) := r.keyOf?_back fs serial x
      ((x.manager fs).perform k' (x.desk fs r)).state m
    have own : o.state.keyOf? ⟨((x.manager fs).lift k').kind, serial⟩ =
        ((x.manager fs).perform k' (x.desk fs r)).state.leases.keyOf? := by
      funext h
      rw [state, after, kind, if_pos rfl]
    refine ⟨?_, fun m other => ?_⟩
    · rw [before, own, state, (r.fields_back fs serial x _).2.1, answer]
      exact Manager.perform_shifts _ _ k' (x.desk fs r)
    · funext h
      rw [state, after, kind, if_neg other]

theorem module?_perform (k : ModuleCommand) (m : ModuleRef) :
    ((perform fs serial k r).state.module? m).isSome = (r.module? m).isSome := by
  rcases r.perform_cases fs serial k with ⟨_, gone⟩ | ⟨x, k', present, rfl, _, state⟩
  · rw [gone]
  · rw [state, module?_back, r.kind_of_module? present]
    split
    · next own => rw [own, present, Option.isSome_some, Option.isSome_some]
    · rfl

/-- The leases of every module are in order, and no module has a serial number that is still to come. -/
def Sound (r : Rig φ F) : Prop :=
  ∀ m x, r.module? m = some x → x.Sound r.counter ∧ m.serial < r.nextSerial

theorem Sound.handle_unique {r : Rig φ F} (sound : r.Sound) {m : ModuleRef} {h h' : Handle}
    {key : UInt32} (held : r.keyOf? m h = some key) (held' : r.keyOf? m h' = some key) : h = h' := by
  obtain ⟨x, present, own⟩ := Option.bind_eq_some_iff.mp held
  obtain ⟨y, present', own'⟩ := Option.bind_eq_some_iff.mp held'
  obtain rfl := Option.some.inj (present.symm.trans present')
  exact (sound m x present).1.handle_unique own own'

theorem Sound.perform {r : Rig φ F} (sound : r.Sound) (k : ModuleCommand) :
    (perform fs serial k r).state.Sound := by
  rcases r.perform_cases fs serial k with ⟨_, gone⟩ | ⟨x, k', present, rfl, _, state⟩
  · rw [gone]
    exact sound
  · -- All desks draw from one counter: the leases of the others must be sound under a later one too.
    obtain ⟨leases, old⟩ := sound _ x present
    have course := (x.manager fs).course k' (x.desk fs r)
    have later := course.sound ((x.sound_leases fs _).mpr leases)
    obtain ⟨_, counter, serials⟩ := r.fields_back fs serial x
      ((x.manager fs).perform k' (x.desk fs r)).state
    intro m y found
    rw [state, module?_back] at found
    rw [state, counter, serials]
    split at found
    · next own =>
      obtain rfl := Option.some.inj found
      refine ⟨(AnyModule.sound_relet _ _).mpr later, ?_⟩
      rw [own]
      exact old
    · obtain ⟨leases', old'⟩ := sound m y found
      refine ⟨leases'.mono ?_, old'⟩
      change (x.desk fs r).counter ≤ _
      rcases course.counter_eq with ⟨_, _, drawn⟩ | ⟨_, same⟩ <;> omega

variable {r} {m : ModuleRef} {x : AnyModule F} {k : ModuleCommand}

theorem unknown_iff (present : r.module? m = some x) (own : k.kind = m.kind) {h : Handle}
    (about : k.handle? = some h) :
    (perform fs m.serial k r).answer = .error (.unknownHandle h) ↔ r.keyOf? m h = none := by
  obtain ⟨k', rfl⟩ := x.exists_lift fs (own.trans (r.kind_of_module? present).symm)
  have aloof := x.aloof fs
  have verdict := ((x.manager fs).course k' (x.desk fs r)).unknown_iff aloof.device (aloof.errand k')
    ((Manager.handle?_lift k').symm.trans about)
  rw [perform_present fs r present k', keyOf?_desk fs present, HandleTable.keyOf?,
    Option.map_eq_none_iff, ← verdict]
  cases ((x.manager fs).perform k' (x.desk fs r)).answer <;> simp [Except.map]

/-- A request is refused for its key just if the key has a handle and nothing else bars the request;
and what is refused changes nothing. -/
theorem request_verdict (sound : r.Sound) (present : r.module? m = some x) (own : k.kind = m.kind)
    {key : UInt32} (asked : k.key? = some key) :
    let o := perform fs m.serial k r
    ((∃ module n, o.answer = .error (.alreadyRequested module n)) ↔
        k.Legal ∧ ∃ h, r.keyOf? m h = some key) ∧
      (k.Legal → (∃ h, r.keyOf? m h = some key) →
        o.answer = .error (.alreadyRequested m.kind.name key.toNat) ∧ o.state.world = r.world) ∧
      (¬ k.Legal → (∃ message, o.answer = .error (.invalidArgument message)) ∧
        o.state.world = r.world) := by
  intro o
  obtain ⟨k', rfl⟩ := x.exists_lift fs (own.trans (r.kind_of_module? present).symm)
  have aloof := x.aloof fs
  obtain ⟨check, s, errand, rfl, taken, legal⟩ := Manager.errand_of_key? asked
  have course := (x.manager fs).course k' (x.desk fs r)
  have checked := aloof.errand k'
  rw [errand] at course checked
  have served := perform_present fs r present k'
  have answer : o.answer =
      ((x.manager fs).perform k' (x.desk fs r)).answer.map (x.manager fs).liftAnswer :=
    congrArg Outcome.answer served
  have world : o.state.world = ((x.manager fs).perform k' (x.desk fs r)).state.device :=
    (congrArg (fun o => o.state.world) served).trans (r.fields_back fs _ x _).1
  have busy_iff : (x.desk fs r).leases.containsKey ((x.manager fs).device.trade.key s) = true ↔
      ∃ h, r.keyOf? m h = some ((x.manager fs).device.trade.key s) := by
    have inOrder := (x.sound_leases fs _).mpr (sound m x present).1
    simp only [keyOf?_desk fs present, HandleTable.keyOf?_eq_some_iff]
    exact inOrder.containsKey_iff
  have refused_iff : (∃ module n, o.answer = .error (.alreadyRequested module n)) ↔
      ∃ module n, ((x.manager fs).perform k' (x.desk fs r)).answer =
        .error (.alreadyRequested module n) := by
    rw [answer]
    cases ((x.manager fs).perform k' (x.desk fs r)).answer <;> simp [Except.map]
  rw [refused_iff, course.taken_iff aloof.device checked, busy_iff]
  rcases legal with ⟨rfl, legal⟩ | ⟨⟨message, rfl⟩, illegal⟩
  · refine ⟨and_congr_left fun _ => iff_of_true rfl legal, fun _ busy => ?_, absurd legal⟩
    obtain ⟨refused, unchanged⟩ := course.of_taken (busy_iff.mpr busy)
    rw [answer, world, refused, unchanged, taken, own]
    exact ⟨rfl, rfl⟩
  · refine ⟨and_congr_left fun _ => iff_of_false (by simp) illegal, (absurd · illegal),
      fun _ => ?_⟩
    obtain ⟨refused, unchanged⟩ := course.of_barred
    rw [answer, world, refused, unchanged]
    exact ⟨⟨message, rfl⟩, rfl⟩

end Rig

end Peripherals

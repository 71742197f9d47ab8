import Peripherals.Proofs.Files.Seen
import Peripherals.Rig.Basic
/-!
Views of rigs. Main statement: where one file system, in a view of its state, does what another one
does, the modules of two rigs over them do the same, and end in the same way.
-/

set_option autoImplicit false

namespace Peripherals

open Peripherals.Action (Mirrors)

variable {σ φ F α : Type}

/-! ### Drivers on a part of the state -/

section

variable {σ' τ τ' C : Type} {f : σ' → σ} {g : τ' → τ} {l' : Lens σ' τ'} {l : Lens σ τ}

/-- In the views `f` and `g` of states and parts, one lens shows what the other one does. -/
structure Lens.SeenAs (l' : Lens σ' τ') (f : σ' → σ) (g : τ' → τ) (l : Lens σ τ) : Prop where
  get : ∀ s, l.get (f s) = g (l'.get s)
  set : ∀ t s, l.set (g t) (f s) = f (l'.set t s)

private theorem Lens.SeenAs.zoom {ε : Type} {h : α → α} (lenses : l'.SeenAs f g l) {x : Action ε τ' α}
    {y : Action ε τ α} (m : Mirrors g h x y) : Mirrors f h (Action.zoom l' x) (Action.zoom l y) :=
  m.zoom lenses.get lenses.set

private theorem beside_seenAs (lenses : l'.SeenAs f g l) :
    (l'.beside : Lens (σ' × C) (τ' × C)).SeenAs (Prod.map f id) (Prod.map g id) l.beside where
  get s := congrArg (·, s.2) (lenses.get s.1)
  set t s := congrArg (·, t.2) (lenses.set t.1 s.1)

private theorem Adc.Driver.SeenAs.zoom {d : Driver τ' C} {bare : Driver τ C} (m : d.SeenAs g id bare)
    (lenses : l'.SeenAs f g l) : (d.zoom l').SeenAs f id (bare.zoom l) where
  name := m.name
  claim c := lenses.zoom (m.claim c)
  read := (beside_seenAs lenses).zoom m.read
  close := (beside_seenAs lenses).zoom m.close

private theorem Gpio.Driver.SeenAs.zoom {d : Driver τ' C} {bare : Driver τ C} (m : d.SeenAs g id bare)
    (lenses : l'.SeenAs f g l) : (d.zoom l').SeenAs f id (bare.zoom l) where
  name := m.name
  claim c := lenses.zoom (m.claim c)
  read := (beside_seenAs lenses).zoom m.read
  write level := (beside_seenAs lenses).zoom (m.write level)
  close := (beside_seenAs lenses).zoom m.close

private theorem Pwm.Driver.SeenAs.zoom {d : Driver τ' C} {bare : Driver τ C} (m : d.SeenAs g id bare)
    (lenses : l'.SeenAs f g l) : (d.zoom l').SeenAs f id (bare.zoom l) where
  name := m.name
  claim c := lenses.zoom (m.claim c)
  calls verb := by
    cases verb with
    | setRunning on => exact (beside_seenAs lenses).zoom (m.calls (.setRunning on))
    | setPeriod period => exact (beside_seenAs lenses).zoom (m.calls (.setPeriod period))
    | setDuty duty => exact (beside_seenAs lenses).zoom (m.calls (.setDuty duty))
    | setPolarity polarity => exact (beside_seenAs lenses).zoom (m.calls (.setPolarity polarity))
  close := (beside_seenAs lenses).zoom m.close

private theorem Adc.Driver.SeenAs.refl (d : Driver τ C) : d.SeenAs id id d :=
  ⟨rfl, fun _ => .refl _, .refl _, .refl _⟩

private theorem Gpio.Driver.SeenAs.refl (d : Driver τ C) : d.SeenAs id id d :=
  ⟨rfl, fun _ => .refl _, .refl _, fun _ => .refl _, .refl _⟩

private theorem Pwm.Driver.SeenAs.refl (d : Driver τ C) : d.SeenAs id id d :=
  ⟨rfl, fun _ => .refl _, fun _ => .refl _, .refl _⟩

end

/-! ### Backends -/

def World.seen (f : σ → φ) (w : World σ) : World φ :=
  ⟨f w.files, w.banks, w.lines, w.outputs, w.recorders⟩

variable {f : σ → φ} {fs' : FileSystem σ F} {fs : FileSystem φ F} (m : fs'.SeenAs f fs)

private theorem World.filesLens_seenAs :
    (World.filesLens : Lens (World σ) σ).SeenAs (World.seen f) f World.filesLens :=
  ⟨fun _ => rfl, fun _ _ => rfl⟩

include m

private theorem Adc.Backend.driver_seenAs :
    ∀ b : Backend, (b.driver fs').SeenAs (World.seen f) id (b.driver fs)
  | .simulated _ _ => (Driver.SeenAs.refl _).zoom ⟨fun _ => rfl, fun _ _ => rfl⟩
  | .iio i => (m.converters i).zoom World.filesLens_seenAs
  | .rtos r => (m.devices r).zoom World.filesLens_seenAs
  | .recorded _ => (Driver.SeenAs.refl _).zoom ⟨fun _ => rfl, fun _ _ => rfl⟩
  | .quiet => {
      name := rfl
      claim := fun _ => Mirrors.pure _
      read := Mirrors.bind Mirrors.get fun _ => Mirrors.pure _
      close := Mirrors.pure _ }

private theorem Gpio.Backend.driver_seenAs :
    ∀ b : Backend, (b.driver fs').SeenAs (World.seen f) id (b.driver fs)
  | .simulated _ => (Driver.SeenAs.refl _).zoom ⟨fun _ => rfl, fun _ _ => rfl⟩
  | .sysfs g => (m.lines g).zoom World.filesLens_seenAs
  | .recorded _ => (Driver.SeenAs.refl _).zoom ⟨fun _ => rfl, fun _ _ => rfl⟩
  | .quiet => {
      name := rfl
      claim := fun _ => Mirrors.pure _
      read := Mirrors.bind Mirrors.get fun _ => Mirrors.pure _
      write := fun _ => Mirrors.modify fun _ => rfl
      close := Mirrors.pure _ }

private theorem Pwm.Backend.driver_seenAs :
    ∀ b : Backend, (b.driver fs').SeenAs (World.seen f) id (b.driver fs)
  | .simulated _ => (Driver.SeenAs.refl _).zoom ⟨fun _ => rfl, fun _ _ => rfl⟩
  | .sysfs s => (m.channels s).zoom World.filesLens_seenAs
  | .recorded _ => (Driver.SeenAs.refl _).zoom ⟨fun _ => rfl, fun _ _ => rfl⟩
  | .quiet => {
      name := rfl
      claim := fun _ => Mirrors.pure _
      calls := fun verb => by cases verb <;> exact Mirrors.pure _
      close := Mirrors.pure _ }

omit m

/-! ### Rigs -/

private theorem HandleTable.map_seen_id {κ S C : Type} [DecidableEq κ] (t : HandleTable κ (Lease S C)) :
    t.map (Lease.seen id) = t := by
  have same : (Lease.seen id : Lease S C → Lease S C) = id := rfl
  simp [HandleTable.map, Assoc.map, same]

namespace Rig

def seen (f : σ → φ) (r : Rig σ F) : Rig φ F :=
  ⟨r.world.seen f, r.counter, r.adcs, r.gpios, r.pwms, r.nextSerial⟩

include m

theorem onAdc_mirrors (serial : Nat)
    {work' : (C : Type) → Adc.Driver (World σ) C → Action Fault (Desk (World σ) Adc.Config C) α}
    {work : (C : Type) → Adc.Driver (World φ) C → Action Fault (Desk (World φ) Adc.Config C) α}
    (same : ∀ {C : Type} {d' : Adc.Driver (World σ) C} {d : Adc.Driver (World φ) C},
      d'.SeenAs (World.seen f) id d → Mirrors (Desk.seen (World.seen f) id) id (work' C d') (work C d)) :
    Mirrors (seen f) id (onAdc fs' serial work') (onAdc fs serial work) := by
  intro r
  simp only [onAdc, seen]
  cases r.adcs.get? serial with
  | none => rfl
  | some a =>
    have step := same (a.backend.driver_seenAs m) ⟨r.world, r.counter, a.leases⟩
    simp only [Desk.seen, HandleTable.map_seen_id] at step
    simp only [step]

theorem onGpio_mirrors (serial : Nat)
    {work' : (C : Type) → Gpio.Driver (World σ) C → Action Fault (Desk (World σ) Gpio.Config C) α}
    {work : (C : Type) → Gpio.Driver (World φ) C → Action Fault (Desk (World φ) Gpio.Config C) α}
    (same : ∀ {C : Type} {d' : Gpio.Driver (World σ) C} {d : Gpio.Driver (World φ) C},
      d'.SeenAs (World.seen f) id d → Mirrors (Desk.seen (World.seen f) id) id (work' C d') (work C d)) :
    Mirrors (seen f) id (onGpio fs' serial work') (onGpio fs serial work) := by
  intro r
  simp only [onGpio, seen]
  cases r.gpios.get? serial with
  | none => rfl
  | some a =>
    have step := same (a.backend.driver_seenAs m) ⟨r.world, r.counter, a.leases⟩
    simp only [Desk.seen, HandleTable.map_seen_id] at step
    simp only [step]

theorem onPwm_mirrors (serial : Nat)
    {work' : (C : Type) → Pwm.Driver (World σ) C → Action Fault (Desk (World σ) Pwm.Signal C) α}
    {work : (C : Type) → Pwm.Driver (World φ) C → Action Fault (Desk (World φ) Pwm.Signal C) α}
    (same : ∀ {C : Type} {d' : Pwm.Driver (World σ) C} {d : Pwm.Driver (World φ) C},
      d'.SeenAs (World.seen f) id d → Mirrors (Desk.seen (World.seen f) id) id (work' C d') (work C d)) :
    Mirrors (seen f) id (onPwm fs' serial work') (onPwm fs serial work) := by
  intro r
  simp only [onPwm, seen]
  cases r.pwms.get? serial with
  | none => rfl
  | some a =>
    have step := same (a.backend.driver_seenAs m) ⟨r.world, r.counter, a.leases⟩
    simp only [Desk.seen, HandleTable.map_seen_id] at step
    simp only [step]

/-- A module ends in the view as it ends. -/
theorem dispose_mirrors (ref : ModuleRef) :
    Mirrors (seen f) id (dispose fs' ref) (dispose fs ref) := by
  obtain ⟨kind, serial⟩ := ref
  cases kind with
  | adc =>
    exact Mirrors.bind (onAdc_mirrors m serial fun d => d.device.teardown) fun _ =>
      Mirrors.modify fun _ => rfl
  | gpio =>
    exact Mirrors.bind (onGpio_mirrors m serial fun d => d.device.teardown) fun _ =>
      Mirrors.modify fun _ => rfl
  | pwm =>
    exact Mirrors.bind (onPwm_mirrors m serial fun d => d.device.teardown) fun _ =>
      Mirrors.modify fun _ => rfl

end Rig

end Peripherals

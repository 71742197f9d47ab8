import Peripherals.Proofs.Desk.Errand
/-!
Whose fault it is. A desk refuses keys that are leased and handles that it does not know, and a device
is to leave this to the desk. Main statement: over such a device the fault of an errand tells whether
its key or its handle has a lease.
-/

set_option autoImplicit false

namespace Peripherals

/-- A fault that a device may have. -/
def Fault.OfDevice : Fault → Prop
  | .unknownHandle _ | .alreadyRequested _ _ => False
  | _ => True

theorem Fault.ofIo_ofDevice (path : Path) (e : IoError) : (Fault.ofIo path e).OfDevice := by
  unfold ofIo
  split
  · trivial
  · split <;> trivial

/-! ### Actions with faults of one sort -/

namespace Action

variable {ε ε' σ τ α β : Type}

/-- Where the action fails, its fault is of this sort. -/
def FailsOnly (P : ε → Prop) (x : Action ε σ α) : Prop :=
  ∀ s e, (x s).answer = .error e → P e

namespace FailsOnly

variable {P : ε → Prop} {x : Action ε σ α}

private theorem of_ok (succeeds : ∀ s, ∃ a, (x s).answer = .ok a) : FailsOnly P x := by
  intro s e failed
  obtain ⟨a, answer⟩ := succeeds s
  rw [answer] at failed
  cases failed

theorem pure (a : α) : FailsOnly P (Pure.pure a : Action ε σ α) :=
  of_ok fun _ => ⟨a, rfl⟩

theorem get : FailsOnly P (Action.get : Action ε σ σ) :=
  of_ok fun s => ⟨s, rfl⟩

theorem set (s : σ) : FailsOnly P (Action.set s : Action ε σ Unit) :=
  of_ok fun _ => ⟨(), rfl⟩

theorem modify (f : σ → σ) : FailsOnly P (Action.modify f : Action ε σ Unit) :=
  of_ok fun _ => ⟨(), rfl⟩

theorem note (e : Event) : FailsOnly P (Action.note e : Action ε σ Unit) :=
  of_ok fun _ => ⟨(), rfl⟩

theorem attempt (y : Action ε' σ α) :
    FailsOnly P (Action.attempt y : Action ε σ (Except ε' α)) :=
  of_ok fun s => ⟨(y s).answer, rfl⟩

theorem fail {e : ε} (sort : P e) : FailsOnly P (Action.fail e : Action ε σ α) := by
  intro s e' failed
  cases failed
  exact sort

theorem ofExcept {a : Except ε α} (sort : ∀ e, a = .error e → P e) :
    FailsOnly P (Action.ofExcept a : Action ε σ α) :=
  fun _ e failed => sort e failed

theorem bind {f : α → Action ε σ β} (hx : FailsOnly P x) (hf : ∀ a, FailsOnly P (f a)) :
    FailsOnly P (x >>= f) := by
  intro s e failed
  cases answer : (x s).answer with
  | error e' =>
    rw [(bind_error f answer).1] at failed
    cases failed
    exact hx s _ answer
  | ok a =>
    rw [(bind_ok answer).1] at failed
    exact hf a _ e failed

theorem map (f : α → β) (hx : FailsOnly P x) : FailsOnly P (f <$> x) :=
  hx.bind fun a => pure (f a)

theorem zoom (l : Lens τ σ) (hx : FailsOnly P x) : FailsOnly P (Action.zoom l x) :=
  fun s e failed => hx (l.get s) e failed

theorem mapError {f : ε' → ε} {y : Action ε' σ α} (sort : ∀ e, P (f e)) :
    FailsOnly P (Action.mapError f y) := by
  intro s e failed
  cases answer : (y s).answer with
  | ok a =>
    simp only [Action.mapError, answer, Except.mapError] at failed
    cases failed
  | error e' =>
    simp only [Action.mapError, answer, Except.mapError] at failed
    cases failed
    exact sort e'

theorem guarded {c : Prop} [Decidable c] {y : Action ε σ PUnit} {f : PUnit → Action ε σ β}
    (hy : FailsOnly P y) (hf : ∀ u, FailsOnly P (f u)) :
    FailsOnly P (if c then y >>= f else f ()) := by
  split
  · exact hy.bind hf
  · exact hf ()

theorem attempt_bind {f : Except ε α → Action ε σ β} (hx : FailsOnly P x)
    (ok : ∀ a, FailsOnly P (f (.ok a))) (error : ∀ e, P e → FailsOnly P (f (.error e))) :
    FailsOnly P (Action.attempt x >>= f) := by
  intro s e failed
  rw [bind_apply, attempt_apply] at failed
  cases answer : (x s).answer with
  | error e' =>
    rw [answer] at failed
    exact error e' (hx s e' answer) _ e failed
  | ok a =>
    rw [answer] at failed
    exact ok a _ e failed

end FailsOnly

end Action

open Peripherals.Action (FailsOnly)

/-! ### Errands -/

section Errands

variable {σ S C A : Type}

/-- No work of the device ends with a refusal of the desk. -/
structure Device.Aloof (dev : Device σ S C) : Prop where
  claim : ∀ s, FailsOnly Fault.OfDevice (dev.claim s)
  rest : FailsOnly Fault.OfDevice dev.rest
  close : FailsOnly Fault.OfDevice dev.close

/-- What the errand itself brings along does not end with a refusal of the desk. -/
def Errand.Aloof : Errand σ S C A → Prop
  | .request check _ => ∀ f, check = .error f → f.OfDevice
  | .use _ work => FailsOnly Fault.OfDevice work
  | .release _ | .look _ _ => True

variable {dev : Device σ S C} {granted : Handle → A} {done : A} {d d' : Desk σ S C}
  {e : Errand σ S C A} {answer : Except Fault A}

private theorem Course.fault_cases (course : Course dev granted done d e answer d') (device : dev.Aloof)
    (errand : e.Aloof) {f : Fault} (failed : answer = .error f) :
    f.OfDevice ∨
      (∃ s, e = .request (.ok ()) s ∧ d.leases.containsKey (dev.trade.key s) = true ∧
        f = dev.taken s) ∨
      ∃ h, e.handle? = some h ∧ d.leases.slots.get? h = none ∧ f = .unknownHandle h := by
  cases course with
  | barred =>
    cases failed
    exact .inl (errand f rfl)
  | @taken s busy =>
    cases failed
    exact .inr (.inl ⟨s, rfl, busy, rfl⟩)
  | declined free claim =>
    cases failed
    exact .inl (device.claim _ _ _ claim)
  | @unknown _ h about dead =>
    cases failed
    exact .inr (.inr ⟨h, about, dead, rfl⟩)
  | used live => exact .inl (errand _ f failed)
  | kept live closing =>
    cases failed
    have windUp : FailsOnly Fault.OfDevice dev.windUp := device.rest.bind fun _ => device.close
    exact .inl (windUp _ f closing)
  | granted | released | looked => cases failed

theorem Course.unknown_iff (course : Course dev granted done d e answer d') (device : dev.Aloof)
    (errand : e.Aloof) {h : Handle} (about : e.handle? = some h) :
    answer = .error (.unknownHandle h) ↔ d.leases.slots.get? h = none := by
  constructor
  · intro failed
    rcases course.fault_cases device errand failed with
      ofDevice | ⟨s, _, _, other⟩ | ⟨h', _, dead, same⟩
    · exact ofDevice.elim
    · cases other
    · obtain rfl := Fault.unknownHandle.inj same
      exact dead
  · exact fun dead => (course.of_dead about dead).1

/-- A key is refused just if it has a lease, unless the request is barred before. -/
theorem Course.taken_iff {check : Except Fault Unit} {s : S}
    (course : Course dev granted done d (.request check s) answer d') (device : dev.Aloof)
    (checked : ∀ f, check = .error f → f.OfDevice) :
    (∃ module key, answer = .error (.alreadyRequested module key)) ↔
      check = .ok () ∧ d.leases.containsKey (dev.trade.key s) = true := by
  constructor
  · rintro ⟨module, key, failed⟩
    rcases course.fault_cases device checked failed with
      ofDevice | ⟨s', same, busy, _⟩ | ⟨h, _, _, other⟩
    · exact ofDevice.elim
    · obtain ⟨rfl, rfl⟩ := Errand.request.inj same
      exact ⟨rfl, busy⟩
    · cases other
  · rintro ⟨rfl, busy⟩
    exact ⟨_, _, (course.of_taken busy).1⟩

end Errands

/-! ### The three kinds of drivers -/

section Drivers

variable {σ C : Type}

structure Adc.Driver.Aloof (d : Adc.Driver σ C) : Prop where
  claim : ∀ c, FailsOnly Fault.OfDevice (d.claim c)
  read : FailsOnly Fault.OfDevice d.read
  close : FailsOnly Fault.OfDevice d.close

theorem Adc.Driver.Aloof.device {d : Adc.Driver σ C} (aloof : d.Aloof) : d.device.Aloof where
  claim := aloof.claim
  rest := .pure _
  close := aloof.close.zoom _

theorem Adc.Driver.Aloof.errand {d : Adc.Driver σ C} (aloof : d.Aloof) (k : Adc.Command) :
    (d.errand k).Aloof := by
  cases k with
  | request c => exact fun f failed => nomatch failed
  | value h => exact (aloof.read.zoom _).map _
  | release h | config h => trivial

structure Gpio.Driver.Aloof (d : Gpio.Driver σ C) : Prop where
  claim : ∀ c, FailsOnly Fault.OfDevice (d.claim c)
  read : FailsOnly Fault.OfDevice d.read
  write : ∀ level, FailsOnly Fault.OfDevice (d.write level)
  close : FailsOnly Fault.OfDevice d.close

theorem Gpio.Driver.Aloof.device {d : Gpio.Driver σ C} (aloof : d.Aloof) : d.device.Aloof where
  claim := aloof.claim
  rest := .pure _
  close := aloof.close.zoom _

theorem Gpio.Driver.Aloof.errand {d : Gpio.Driver σ C} (aloof : d.Aloof) (k : Gpio.Command) :
    (d.errand k).Aloof := by
  cases k with
  | request c => exact fun f failed => nomatch failed
  | level h => exact (aloof.read.zoom _).map _
  | drive h level =>
    refine FailsOnly.map _ (FailsOnly.get.bind fun p => ?_)
    dsimp only
    split
    · exact (aloof.write level).zoom _
    · exact .fail trivial
  | release h | name h | direction h | line h => trivial

structure Pwm.Driver.Aloof (d : Pwm.Driver σ C) : Prop where
  claim : ∀ c, FailsOnly Fault.OfDevice (d.claim c)
  setRunning : ∀ on, FailsOnly Fault.OfDevice (d.setRunning on)
  setPeriod : ∀ period, FailsOnly Fault.OfDevice (d.setPeriod period)
  setDuty : ∀ duty, FailsOnly Fault.OfDevice (d.setDuty duty)
  setPolarity : ∀ polarity, FailsOnly Fault.OfDevice (d.setPolarity polarity)
  close : FailsOnly Fault.OfDevice d.close

private theorem Pwm.checkDuty_ofDevice {period duty : UInt32} {f : Fault}
    (failed : Pwm.checkDuty period duty = .error f) : f.OfDevice := by
  unfold Pwm.checkDuty at failed
  split at failed
  · cases failed
    trivial
  · cases failed

private theorem Pwm.Driver.recorded_ofDevice : FailsOnly Fault.OfDevice
    (Pwm.Driver.recorded : Action Fault (σ × Lease Pwm.Signal C) Pwm.Signal) :=
  FailsOnly.get.bind fun _ => .pure _

private theorem Pwm.Driver.Aloof.run {d : Pwm.Driver σ C} (aloof : d.Aloof) (on : Bool) :
    FailsOnly Fault.OfDevice (d.run on) :=
  ((aloof.setRunning on).zoom _).bind fun _ => .modify _

theorem Pwm.Driver.Aloof.device {d : Pwm.Driver σ C} (aloof : d.Aloof) : d.device.Aloof where
  claim s := aloof.claim s.config
  rest := by
    refine Pwm.Driver.recorded_ofDevice.bind fun s => ?_
    split
    · exact aloof.run false
    · exact .pure _
  close := aloof.close.zoom _

theorem Pwm.Driver.Aloof.errand {d : Pwm.Driver σ C} (aloof : d.Aloof) (k : Pwm.Command) :
    (d.errand k).Aloof := by
  have checked (period duty : UInt32) : FailsOnly Fault.OfDevice
      (Action.ofExcept (Pwm.checkDuty period duty) : Action Fault (σ × Lease Pwm.Signal C) Unit) :=
    .ofExcept fun _ => Pwm.checkDuty_ofDevice
  cases k with
  | request c => exact fun f failed => Pwm.checkDuty_ofDevice failed
  | enable h => exact (aloof.run true).map _
  | disable h => exact (aloof.run false).map _
  | setPeriod h period =>
    refine FailsOnly.map _ (Pwm.Driver.recorded_ofDevice.bind fun s => ?_)
    refine (checked _ _).bind fun _ => ?_
    exact ((aloof.setPeriod period).zoom _).bind fun _ => .modify _
  | setDuty h duty =>
    refine FailsOnly.map _ (Pwm.Driver.recorded_ofDevice.bind fun s => ?_)
    refine (checked _ _).bind fun _ => ?_
    exact ((aloof.setDuty duty).zoom _).bind fun _ => .modify _
  | setPolarity h polarity =>
    refine FailsOnly.map _ (Pwm.Driver.recorded_ofDevice.bind fun s => ?_)
    refine .guarded (aloof.run false) fun _ => ?_
    refine ((aloof.setPolarity polarity).zoom _).bind fun _ => (FailsOnly.modify _).bind fun _ => ?_
    split
    · exact aloof.run true
    · exact .pure _
  | release h | config h | isEnabled h => trivial

end Drivers

end Peripherals

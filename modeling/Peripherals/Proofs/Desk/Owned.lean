import Peripherals.Proofs.Office
/-!
Owned resources and the desk that lent them. Main statements: an errand makes one handle live, or one
dead, or changes nothing about handles and keys; and an owner asks the desk to take a resource back
only while it has not been taken back.
-/

set_option autoImplicit false

namespace Peripherals

open Peripherals.Action (Mirrors)

variable {σ S C A : Type}

/-! ### Live handles -/

/-- The handle has a lease. -/
def Desk.Live (d : Desk σ S C) (h : Handle) : Prop :=
  ∃ key, d.leases.keyOf? h = some key

theorem Desk.live_iff {d : Desk σ S C} {h : Handle} :
    d.Live h ↔ ∃ p, d.leases.slots.get? h = some p := by
  constructor
  · rintro ⟨key, found⟩
    obtain ⟨lease, slot⟩ := HandleTable.keyOf?_eq_some_iff.mp found
    exact ⟨(key, lease), slot⟩
  · rintro ⟨⟨key, lease⟩, slot⟩
    exact ⟨key, HandleTable.keyOf?_eq_some_iff.mpr ⟨lease, slot⟩⟩

def Errand.key? (dev : Device σ S C) : Errand σ S C A → Option UInt32
  | .request _ s => some (dev.trade.key s)
  | .release _ | .use _ _ | .look _ _ => none

def Errand.release? : Errand σ S C A → Option Handle
  | .release h => some h
  | .request _ _ | .use _ _ | .look _ _ => none

theorem Errand.release?_eq_some_iff {e : Errand σ S C A} {h : Handle} :
    e.release? = some h ↔ e = .release h := by
  cases e <;> simp [release?]

theorem Errand.handle?_of_key? {dev : Device σ S C} {e : Errand σ S C A} {key : UInt32}
    (asked : e.key? dev = some key) : e.handle? = none := by
  cases e with
  | request check s => rfl
  | release h | use h work | look h view => cases asked

/-- What an errand does to handles: a request that succeeds makes the next one live, a release that
succeeds makes its own dead, and all else leaves every handle under its key. -/
inductive Desk.Shift (dev : Device σ S C) (granted : Handle → A) (done : A) (d : Desk σ S C)
    (e : Errand σ S C A) (answer : Except Fault A) (d' : Desk σ S C) : Prop
  | issued (key : UInt32) (request : e.handle? = none) (asked : e.key? dev = some key)
    (ok : answer = .ok (granted ⟨d.counter⟩)) (counter : d'.counter = d.counter + 1)
    (keys : ∀ h, d'.leases.keyOf? h = if h = ⟨d.counter⟩ then some key else d.leases.keyOf? h)
  | returned (h : Handle) (release : e = .release h) (ok : answer = .ok done) (was : d.Live h)
    (counter : d'.counter = d.counter)
    (keys : ∀ h', d'.leases.keyOf? h' = if h' = h then none else d.leases.keyOf? h')
  | still (request : e.handle? = none → ∃ f, answer = .error f)
    (release : ∀ h, e = .release h → ∃ f, answer = .error f) (counter : d'.counter = d.counter)
    (keys : ∀ h, d'.leases.keyOf? h = d.leases.keyOf? h)

theorem Desk.live_of_issued {d d' : Desk σ S C} {h₀ : Handle} {key : UInt32}
    (keys : ∀ h, d'.leases.keyOf? h = if h = h₀ then some key else d.leases.keyOf? h) (h : Handle) :
    d'.Live h ↔ d.Live h ∨ h = h₀ := by
  unfold Live
  rw [keys]
  by_cases same : h = h₀
  · simp [same]
  · simp [same]

theorem Desk.live_of_returned {d d' : Desk σ S C} {h₀ : Handle}
    (keys : ∀ h, d'.leases.keyOf? h = if h = h₀ then none else d.leases.keyOf? h) (h : Handle) :
    d'.Live h ↔ d.Live h ∧ h ≠ h₀ := by
  unfold Live
  rw [keys]
  by_cases same : h = h₀
  · simp [same]
  · simp [same]

theorem Course.shift {dev : Device σ S C} {granted : Handle → A} {done : A} {d d' : Desk σ S C}
    {e : Errand σ S C A} {answer : Except Fault A} (course : Course dev granted done d e answer d') :
    d.Shift dev granted done e answer d' := by
  cases course with
  | barred | taken | declined =>
    exact .still (fun _ => ⟨_, rfl⟩) (fun _ release => nomatch release) rfl fun _ => rfl
  | unknown => exact .still (fun _ => ⟨_, rfl⟩) (fun _ _ => ⟨_, rfl⟩) rfl fun _ => rfl
  | looked =>
    exact .still (fun request => nomatch request) (fun _ release => nomatch release) rfl fun _ => rfl
  | used live =>
    exact .still (fun request => nomatch request) (fun _ release => nomatch release) rfl
      fun h => Desk.keyOf?_after live _ h
  | kept live failed =>
    exact .still (fun request => nomatch request) (fun _ _ => ⟨_, rfl⟩) rfl
      fun h => Desk.keyOf?_after live _ h
  | granted free claim =>
    refine .issued _ rfl rfl rfl rfl fun h => ?_
    change ((d.leases.entered _ _ _).slots.get? h).map _ = _
    rw [HandleTable.slots_entered]
    split <;> rfl
  | @released h key lease live closed =>
    refine .returned h rfl rfl (Desk.live_iff.mpr ⟨_, live⟩) rfl fun h' => ?_
    change (((d.leases.set h _).without h key).slots.get? h').map _ = _
    rw [HandleTable.slots_without]
    split
    · rfl
    · exact Desk.keyOf?_after live _ h'

private theorem Device.release_course (dev : Device σ S C) (h : Handle) (d : Desk σ S C) :
    Course dev (fun _ => ()) () d (.release h) (dev.release h d).answer (dev.release h d).state := by
  have same : (Errand.release h : Errand σ S C Unit).run dev (fun _ => ()) () = dev.release h :=
    bind_pure_unit
  have course := (Errand.release h : Errand σ S C Unit).course dev (fun _ => ()) () d
  rw [same] at course
  exact course

theorem Device.release_cases (dev : Device σ S C) (h : Handle) (d : Desk σ S C) :
    ((dev.release h d).answer = .ok () ∧ d.Live h ∧
        ∀ h', (dev.release h d).state.Live h' ↔ d.Live h' ∧ h' ≠ h) ∨
      ((∃ f, (dev.release h d).answer = .error f) ∧
        ∀ h', (dev.release h d).state.leases.keyOf? h' = d.leases.keyOf? h') := by
  cases (dev.release_course h d).shift with
  | issued _ request => cases request
  | returned h' release ok was _ keys =>
    cases release
    exact .inl ⟨ok, was, Desk.live_of_returned keys⟩
  | still _ release _ keys => exact .inr ⟨release h rfl, keys⟩

theorem Device.release_counter (dev : Device σ S C) (h : Handle) (d : Desk σ S C) :
    (dev.release h d).state.counter = d.counter := by
  cases (dev.release_course h d).shift with
  | issued _ request => cases request
  | returned _ _ _ _ counter => exact counter
  | still _ _ counter => exact counter

/-! ### Owners -/

namespace Owned

/-- Gives the resource back, by whatever way there is to have it taken back. -/
def releaseBy (takeBack : Handle → Action Fault σ Unit) (x : Owned S) : Action Fault σ (Owned S) :=
  if x.released then pure x
  else do
    takeBack x.handle
    return { x with released := true }

def dropBy {τ : Type} (dev : Device τ S C) (takeBack : Handle → Action Fault σ Unit) (x : Owned S) :
    Action Fault σ Unit :=
  if x.released then pure ()
  else do
    match ← (Action.attempt (takeBack x.handle) : Action Fault _ _) with
    | .ok () => pure ()
    | .error e => Action.note ⟨.warn, "Failed to release " ++ dev.trade.noun,
        [dev.keyDetail (dev.trade.key x.settings), ("error", e.message)]⟩

theorem release_eq_releaseBy (dev : Device σ S C) (x : Owned S) :
    x.release dev = x.releaseBy dev.release := rfl

theorem drop_eq_dropBy (dev : Device σ S C) (x : Owned S) :
    x.drop dev = x.dropBy dev dev.release := rfl

variable {takeBack : Handle → Action Fault σ Unit} {x : Owned S}

theorem releaseBy_released (released : x.released = true) (s : σ) :
    x.releaseBy takeBack s = ⟨.ok x, [], s⟩ := by
  unfold releaseBy
  rw [if_pos released]
  rfl

theorem dropBy_released {τ : Type} (dev : Device τ S C) (released : x.released = true) (s : σ) :
    x.dropBy dev takeBack s = ⟨.ok (), [], s⟩ := by
  unfold dropBy
  rw [if_pos released]
  rfl

variable (takeBack)

theorem releaseBy_held (held : x.released = false) (s : σ) :
    (x.releaseBy takeBack s).answer =
        (takeBack x.handle s).answer.map (fun _ => { x with released := true }) ∧
      (x.releaseBy takeBack s).state = (takeBack x.handle s).state := by
  have unreleased : ¬ x.released = true := by simp [held]
  unfold releaseBy
  rw [if_neg unreleased]
  cases answer : (takeBack x.handle s).answer with
  | error f =>
    exact Action.bind_error (fun _ => pure { x with released := true }) answer
  | ok u =>
    exact Action.bind_ok (f := fun _ => pure { x with released := true }) answer

theorem dropBy_held {τ : Type} (dev : Device τ S C) (held : x.released = false) (s : σ) :
    (x.dropBy dev takeBack s).answer = .ok () ∧
      (x.dropBy dev takeBack s).state = (takeBack x.handle s).state := by
  have unreleased : ¬ x.released = true := by simp [held]
  unfold dropBy
  rw [if_neg unreleased, Action.bind_apply, Action.attempt_apply]
  cases (takeBack x.handle s).answer with
  | error f => exact ⟨rfl, rfl⟩
  | ok u => exact ⟨rfl, rfl⟩

end Owned

/-! ### Notes of what is taken back -/

/-- All that was asked to be taken back, and whether it was. -/
abbrev Returns := List (Handle × Except Fault Unit)

/-- Writes down that a resource is to be taken back. -/
def noted (takeBack : Handle → Action Fault σ Unit) (h : Handle) : Action Fault (σ × Returns) Unit :=
  fun (s, log) => ⟨(takeBack h s).answer, (takeBack h s).events,
    ((takeBack h s).state, log ++ [(h, (takeBack h s).answer)])⟩

private theorem noted_mirrors (takeBack : Handle → Action Fault σ Unit) (h : Handle) :
    Mirrors Prod.fst id (noted takeBack h) (takeBack h) := by
  intro p
  cases done : takeBack h p.1 with
  | mk answer events state => cases answer <;> simp [noted, done, Except.map]

namespace Owned

/-- Notes change nothing for the owner and for the desk. -/
theorem releaseBy_noted (dev : Device σ S C) (x : Owned S) :
    Mirrors Prod.fst id (x.releaseBy (noted dev.release)) (x.release dev) := by
  rw [release_eq_releaseBy]
  unfold releaseBy
  split
  · exact Mirrors.pure x
  · exact (noted_mirrors dev.release x.handle).bind fun _ => Mirrors.pure _

theorem dropBy_noted (dev : Device σ S C) (x : Owned S) :
    Mirrors Prod.fst id (x.dropBy dev (noted dev.release)) (x.drop dev) := by
  rw [drop_eq_dropBy]
  unfold dropBy
  split
  · exact Mirrors.pure ()
  · refine (noted_mirrors dev.release x.handle).attempt.bind fun result => ?_
    cases result with
    | ok u => exact Mirrors.pure ()
    | error e => exact Mirrors.note _

end Owned

end Peripherals

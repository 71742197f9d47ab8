import Peripherals.Proofs.Desk.Owned
/-!
Estates: a manager, its desk, and the owners of resources that were requested from it, beside callers
who use the manager themselves. Main statement: what owners do to the desk is what the functions of
owned resources do.
-/

set_option autoImplicit false

namespace Peripherals

/-! ### What is asked of managers -/

namespace Manager

variable {W : Type}

def Config : Manager W → Type
  | .adc _ => Adc.Config
  | .gpio _ => Gpio.Config
  | .pwm _ => Pwm.Config

def request : (m : Manager W) → m.Config → m.Command
  | .adc _ => .request
  | .gpio _ => .request
  | .pwm _ => .request

def settings : (m : Manager W) → m.Config → m.Settings
  | .adc _ => id
  | .gpio _ => id
  | .pwm _ => (⟨·, false⟩)

variable (m : Manager W)

theorem handle?_request (c : m.Config) : m.handle? (m.request c) = none := by
  cases m <;> rfl

theorem handle?_release (h : Handle) : m.handle? (m.release h) = some h := by
  cases m <;> rfl

theorem errand_eq_release_iff {k : m.Command} {h : Handle} :
    m.errand k = .release h ↔ k = m.release h := by
  constructor
  · intro release
    cases m with
    | adc d =>
      cases k with
      | release h' =>
        obtain rfl := Errand.release.inj release
        rfl
      | request c | value h' | config h' => cases release
    | gpio d =>
      cases k with
      | release h' =>
        obtain rfl := Errand.release.inj release
        rfl
      | request c | level h' | drive h' b | name h' | direction h' | line h' => cases release
    | pwm d =>
      cases k with
      | release h' =>
        obtain rfl := Errand.release.inj release
        rfl
      | request c | enable h' | disable h' | setPeriod h' n | setDuty h' n | setPolarity h' p
        | config h' | isEnabled h' => cases release
  · rintro rfl
    exact m.errand_release h

theorem granted_injective {h h' : Handle} (same : m.granted h = m.granted h') : h = h' := by
  have given := congrArg m.granted? same
  rw [m.granted?_granted, m.granted?_granted] at given
  exact Option.some.inj given

end Manager

/-! ### Estates -/

/-- The desk of a manager, the owners by their handles, the handles that owners ever had, what owners
asked to be taken back, and what other callers asked, each with the answer. -/
structure Estate {W : Type} (m : Manager W) where
  desk : Desk W m.Settings m.Channel
  pins : Handle → Option (Owned m.Settings) := fun _ => none
  pinned : List Handle := []
  asked : Returns := []
  told : List (m.Command × Except Fault m.Answer) := []

/-- What happens at an estate: a caller uses the manager; an owner comes to be, uses its resource,
gives it back, or goes away; the world changes and other desks draw handles. -/
inductive Dealing {W : Type} (m : Manager W) where
  | command (k : m.Command)
  | own (c : m.Config)
  | operate (h : Handle) (k : m.Command) (about : m.handle? k = some h) (keeps : k ≠ m.release h)
  | giveBack (h : Handle)
  | drop (h : Handle)
  | drift (f : W → W) (drawn : Nat)

namespace Estate

variable {W : Type} {m : Manager W}

def start (m : Manager W) (world : W) (counter : Nat) : Estate m where
  desk := Desk.vacant world counter

def step (e : Estate m) : Dealing m → Estate m
  | .command k =>
    let r := m.perform k e.desk
    { e with desk := r.state, told := e.told ++ [(k, r.answer)] }
  | .own c =>
    let r := m.perform (m.request c) e.desk
    match r.answer.toOption.bind m.granted? with
    | some h => { e with
        desk := r.state
        pins := Function.update e.pins h (some ⟨h, m.settings c, false⟩)
        pinned := e.pinned ++ [h] }
    | none => { e with desk := r.state }
  | .operate h k _ _ =>
    match e.pins h with
    | some _ => { e with desk := (m.perform k e.desk).state }
    | none => e
  | .giveBack h =>
    match e.pins h with
    | some x =>
      let r := x.releaseBy (noted m.device.release) (e.desk, e.asked)
      { e with
        desk := r.state.1
        asked := r.state.2
        pins := Function.update e.pins h (some (r.answer.toOption.getD x)) }
    | none => e
  | .drop h =>
    match e.pins h with
    | some x =>
      let r := x.dropBy m.device (noted m.device.release) (e.desk, e.asked)
      { e with desk := r.state.1, asked := r.state.2, pins := Function.update e.pins h none }
    | none => e
  | .drift f drawn =>
    { e with desk := { e.desk with device := f e.desk.device, counter := e.desk.counter + drawn } }

def run (e : Estate m) (dealings : List (Dealing m)) : Estate m :=
  dealings.foldl step e

/-- How often the resource was taken back for its owner. -/
def handedBack (e : Estate m) (h : Handle) : Nat :=
  e.asked.countP fun a => a.1 = h && a.2.isOk

/-- A caller requested the resource without an owner. -/
def Direct (e : Estate m) (h : Handle) : Prop :=
  ∃ k, m.handle? k = none ∧ (k, .ok (m.granted h)) ∈ e.told

/-- A caller released the resource, whoever requested it. -/
def Withdrawn (e : Estate m) (h : Handle) : Prop :=
  ∃ a, (m.release h, .ok a) ∈ e.told

def Known (e : Estate m) (h : Handle) : Prop :=
  e.Direct h ∨ h ∈ e.pinned

variable {e : Estate m} {h : Handle}

/-! ### Steps -/

private theorem mem_told_iff {told : List (m.Command × Except Fault m.Answer)} {k k' : m.Command}
    {r r' : Except Fault m.Answer} :
    (k, r) ∈ told ++ [(k', r')] ↔ (k, r) ∈ told ∨ k = k' ∧ r = r' := by
  rw [List.mem_append, List.mem_singleton, Prod.mk.injEq]

theorem direct_command (e : Estate m) (k : m.Command) (h : Handle) :
    (e.step (.command k)).Direct h ↔ e.Direct h ∨
      m.handle? k = none ∧ (m.perform k e.desk).answer = .ok (m.granted h) := by
  constructor
  · rintro ⟨k', request, member⟩
    rcases mem_told_iff.mp member with old | ⟨rfl, answer⟩
    · exact .inl ⟨k', request, old⟩
    · exact .inr ⟨request, answer.symm⟩
  · rintro (⟨k', request, member⟩ | ⟨request, answer⟩)
    · exact ⟨k', request, mem_told_iff.mpr (.inl member)⟩
    · exact ⟨k, request, mem_told_iff.mpr (.inr ⟨rfl, answer.symm⟩)⟩

theorem withdrawn_command (e : Estate m) (k : m.Command) (h : Handle) :
    (e.step (.command k)).Withdrawn h ↔ e.Withdrawn h ∨
      k = m.release h ∧ ∃ a, (m.perform k e.desk).answer = .ok a := by
  constructor
  · rintro ⟨a, member⟩
    rcases mem_told_iff.mp member with old | ⟨rfl, answer⟩
    · exact .inl ⟨a, old⟩
    · exact .inr ⟨rfl, a, answer.symm⟩
  · rintro (⟨a, member⟩ | ⟨rfl, a, answer⟩)
    · exact ⟨a, mem_told_iff.mpr (.inl member)⟩
    · exact ⟨a, mem_told_iff.mpr (.inr ⟨rfl, answer.symm⟩)⟩

theorem direct_of_ungranted {k : m.Command} (ungranted : m.handle? k = none →
      (m.perform k e.desk).answer ≠ .ok (m.granted h)) :
    (e.step (.command k)).Direct h ↔ e.Direct h := by
  rw [direct_command]
  exact or_iff_left fun asked => ungranted asked.1 asked.2

theorem withdrawn_of_unreleased {k : m.Command}
    (unreleased : k = m.release h → ∃ f, (m.perform k e.desk).answer = .error f) :
    (e.step (.command k)).Withdrawn h ↔ e.Withdrawn h := by
  rw [withdrawn_command]
  refine or_iff_left ?_
  rintro ⟨release, a, answer⟩
  obtain ⟨f, failed⟩ := unreleased release
  rw [failed] at answer
  cases answer

theorem live_of_keys {d d' : Desk W m.Settings m.Channel}
    (keys : ∀ h, d'.leases.keyOf? h = d.leases.keyOf? h) (h : Handle) : d'.Live h ↔ d.Live h := by
  unfold Desk.Live
  rw [keys]

theorem live_of_release {h₀ : Handle} (live : (m.device.release h₀ e.desk).state.Live h) :
    e.desk.Live h := by
  rcases m.device.release_cases h₀ e.desk with ⟨_, _, live'⟩ | ⟨_, keys⟩
  · exact ((live' h).mp live).1
  · exact (live_of_keys keys h).mp live

theorem not_live_of_released (done : (m.device.release h e.desk).answer = .ok ()) :
    ¬ (m.device.release h e.desk).state.Live h := by
  rcases m.device.release_cases h e.desk with ⟨_, _, live⟩ | ⟨⟨f, failed⟩, _⟩
  · rw [live]
    exact fun alive => alive.2 rfl
  · rw [done] at failed
    cases failed

private theorem giveBack_released {x : Owned m.Settings} (held : e.pins h = some x)
    (released : x.released = true) : e.step (.giveBack h) = e := by
  simp only [step, held, Owned.releaseBy_released released, Except.toOption, Option.getD_some]
  rw [← held, Function.update_eq_self]

private theorem drop_released {x : Owned m.Settings} (held : e.pins h = some x)
    (released : x.released = true) :
    e.step (.drop h) = { e with pins := Function.update e.pins h none } := by
  simp only [step, held, Owned.dropBy_released m.device released]

theorem giveBack_held {x : Owned m.Settings} (held : e.pins h = some x) (own : x.handle = h)
    (unreleased : x.released = false) :
    e.step (.giveBack h) = { e with
      desk := (m.device.release h e.desk).state
      asked := e.asked ++ [(h, (m.device.release h e.desk).answer)]
      pins := Function.update e.pins h
        (some { x with released := (m.device.release h e.desk).answer.isOk }) } := by
  subst own
  obtain ⟨answer, state⟩ :=
    Owned.releaseBy_held (noted m.device.release) unreleased (e.desk, e.asked)
  have next : (x.releaseBy (noted m.device.release) (e.desk, e.asked)).answer.toOption.getD x =
      { x with released := (m.device.release x.handle e.desk).answer.isOk } := by
    rw [answer]
    change ((m.device.release x.handle e.desk).answer.map _).toOption.getD x = _
    cases (m.device.release x.handle e.desk).answer with
    | ok u => rfl
    | error f =>
      change x = { x with released := false }
      rw [← unreleased]
  simp only [step, held, next, state, noted]

theorem drop_held {x : Owned m.Settings} (held : e.pins h = some x) (own : x.handle = h)
    (unreleased : x.released = false) :
    e.step (.drop h) = { e with
      desk := (m.device.release h e.desk).state
      asked := e.asked ++ [(h, (m.device.release h e.desk).answer)]
      pins := Function.update e.pins h none } := by
  obtain ⟨_, state⟩ :=
    Owned.dropBy_held (noted m.device.release) m.device unreleased (e.desk, e.asked)
  rw [own] at state
  simp only [step, held, state, noted]

theorem giveBack_cases (own : ∀ x, e.pins h = some x → x.handle = h) :
    e.step (.giveBack h) = e ∨
      ∃ x, e.pins h = some x ∧ x.released = false ∧ e.step (.giveBack h) = { e with
        desk := (m.device.release h e.desk).state
        asked := e.asked ++ [(h, (m.device.release h e.desk).answer)]
        pins := Function.update e.pins h
          (some { x with released := (m.device.release h e.desk).answer.isOk }) } := by
  rcases held : e.pins h with _ | x
  · left
    simp only [step, held]
  · cases released : x.released with
    | true => exact .inl (giveBack_released held released)
    | false => exact .inr ⟨x, rfl, released, giveBack_held held (own x held) released⟩

theorem drop_cases (own : ∀ x, e.pins h = some x → x.handle = h) :
    (∀ x, e.pins h = some x → x.released = true) ∧
        e.step (.drop h) = { e with pins := Function.update e.pins h none } ∨
      ∃ x, e.pins h = some x ∧ x.released = false ∧ e.step (.drop h) = { e with
        desk := (m.device.release h e.desk).state
        asked := e.asked ++ [(h, (m.device.release h e.desk).answer)]
        pins := Function.update e.pins h none } := by
  rcases held : e.pins h with _ | x
  · left
    refine ⟨fun x there => (nomatch there), ?_⟩
    simp only [step, held]
    rw [← held, Function.update_eq_self]
  · cases released : x.released with
    | true =>
      refine .inl ⟨fun y there => ?_, drop_released held released⟩
      obtain rfl := Option.some.inj there
      exact released
    | false => exact .inr ⟨x, rfl, released, drop_held held (own x held) released⟩

/-- What owners do to the desk is what the functions of owned resources do; the notes beside it
change nothing. -/
theorem step_owned {x : Owned m.Settings} (held : e.pins h = some x) :
    (e.step (.giveBack h)).desk = (x.release m.device e.desk).state ∧
      (e.step (.giveBack h)).pins h =
        some ((x.release m.device e.desk).answer.toOption.getD x) ∧
      (e.step (.drop h)).desk = (x.drop m.device e.desk).state := by
  have release := Owned.releaseBy_noted m.device x (e.desk, e.asked)
  have drop := Owned.dropBy_noted m.device x (e.desk, e.asked)
  have answer : (x.release m.device e.desk).answer =
      (x.releaseBy (noted m.device.release) (e.desk, e.asked)).answer := by
    rw [release]
    cases (x.releaseBy (noted m.device.release) (e.desk, e.asked)).answer <;> rfl
  simp only [step, held]
  rw [answer, release, drop, Function.update_self]
  exact ⟨rfl, rfl, rfl⟩

end Estate

end Peripherals

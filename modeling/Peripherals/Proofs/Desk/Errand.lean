import Peripherals.Adc.Driver
import Peripherals.Gpio.Driver
import Peripherals.Pwm.Driver
import Peripherals.Proofs.Action
import Peripherals.Proofs.HandleTable
/-!
Errands: what the commands of all desks come down to. Main statements: the commands of the three
kinds of desks are errands, and `Course` lists all that can come of an errand.
-/

set_option autoImplicit false

namespace Peripherals

variable {σ S C A : Type}

/-- A request, which may be barred before the desk looks at it, a release, work on a leased resource,
or a look at its settings. -/
inductive Errand (σ S C A : Type) where
  | request (check : Except Fault Unit) (settings : S)
  | release (h : Handle)
  | use (h : Handle) (work : Action Fault (σ × Lease S C) A)
  | look (h : Handle) (view : S → A)

def Device.windUp (dev : Device σ S C) : Action Fault (σ × Lease S C) Unit := do
  dev.rest
  dev.close

namespace Desk

def vacant (device : σ) (counter : Nat) : Desk σ S C where
  device
  counter

def after (d : Desk σ S C) (h : Handle) (p : σ × Lease S C) : Desk σ S C :=
  { d with device := p.1, leases := d.leases.set h p.2 }

def lend (d : Desk σ S C) (key : UInt32) (device : σ) (lease : Lease S C) : Desk σ S C where
  device
  counter := d.counter + 1
  leases := d.leases.entered ⟨d.counter⟩ key lease

def strike (d : Desk σ S C) (h : Handle) (key : UInt32) : Desk σ S C :=
  { d with leases := d.leases.without h key }

theorem withLease_map {B : Type} (h : Handle) (work : Action Fault (σ × Lease S C) A) (f : A → B) :
    f <$> withLease h work = withLease h (f <$> work) := by
  funext d
  simp only [Action.map_apply, withLease]
  cases d.leases.get? h <;> rfl

theorem withLease_live {d : Desk σ S C} {h : Handle} {key : UInt32} {lease : Lease S C}
    (live : d.leases.slots.get? h = some (key, lease)) (work : Action Fault (σ × Lease S C) A) :
    withLease h work d = ⟨(work (d.device, lease)).answer, (work (d.device, lease)).events,
      d.after h (work (d.device, lease)).state⟩ := by
  have value : d.leases.get? h = some lease := HandleTable.get?_eq_some_iff.mpr ⟨key, live⟩
  simp only [withLease, value]
  rfl

theorem map_withLease_live {B : Type} {d : Desk σ S C} {h : Handle} {key : UInt32} {lease : Lease S C}
    (live : d.leases.slots.get? h = some (key, lease)) (work : Action Fault (σ × Lease S C) A) (f : A → B) :
    (f <$> withLease h work) d = ⟨(work (d.device, lease)).answer.map f, (work (d.device, lease)).events,
      d.after h (work (d.device, lease)).state⟩ := by
  rw [Action.map_apply, withLease_live live]

theorem slots_after {d : Desk σ S C} {h : Handle} {key : UInt32} {lease : Lease S C}
    (live : d.leases.slots.get? h = some (key, lease)) (p : σ × Lease S C) :
    (d.after h p).leases.slots.get? h = some (key, p.2) :=
  (HandleTable.slots_set live p.2 h).trans (if_pos rfl)

theorem keyOf?_after {d : Desk σ S C} {h : Handle} {key : UInt32} {lease : Lease S C}
    (live : d.leases.slots.get? h = some (key, lease)) (p : σ × Lease S C) (h' : Handle) :
    (d.after h p).leases.keyOf? h' = d.leases.keyOf? h' := by
  change ((d.leases.set h p.2).slots.get? h').map _ = _
  rw [HandleTable.slots_set live]
  by_cases same : h' = h
  · rw [if_pos same, same]
    simp only [HandleTable.keyOf?, live, Option.map_some]
  · rw [if_neg same]
    rfl

private theorem inspect_map {B : Type} (h : Handle) (view : S → A) (f : A → B) :
    (f <$> inspect h view : Action Fault (Desk σ S C) B) = inspect h (fun s => f (view s)) := by
  funext d
  simp only [Action.map_apply, inspect]
  cases d.leases.get? h <;> rfl

end Desk

namespace Errand

def handle? : Errand σ S C A → Option Handle
  | .request _ _ => none
  | .release h | .use h _ | .look h _ => some h

def run (dev : Device σ S C) (granted : Handle → A) (done : A) :
    Errand σ S C A → Action Fault (Desk σ S C) A
  | .request check s => do
    Action.ofExcept check
    granted <$> dev.request s
  | .release h => do
    dev.release h
    return done
  | .use h work => Desk.withLease h work
  | .look h view => Desk.inspect h view

end Errand

/-- The answer and the desk that an errand at the desk `d` leads to. -/
inductive Course (dev : Device σ S C) (granted : Handle → A) (done : A) (d : Desk σ S C) :
    Errand σ S C A → Except Fault A → Desk σ S C → Prop
  | barred {f : Fault} {s : S} : Course dev granted done d (.request (.error f) s) (.error f) d
  | taken {s : S} (busy : d.leases.containsKey (dev.trade.key s) = true) :
    Course dev granted done d (.request (.ok ()) s) (.error (dev.taken s)) d
  | declined {s : S} {f : Fault} (free : d.leases.containsKey (dev.trade.key s) = false)
    (claim : (dev.claim s d.device).answer = .error f) :
    Course dev granted done d (.request (.ok ()) s) (.error f)
      { d with device := (dev.claim s d.device).state }
  | granted {s : S} {c : C} (free : d.leases.containsKey (dev.trade.key s) = false)
    (claim : (dev.claim s d.device).answer = .ok c) :
    Course dev granted done d (.request (.ok ()) s) (.ok (granted ⟨d.counter⟩))
      (d.lend (dev.trade.key s) (dev.claim s d.device).state ⟨s, c⟩)
  | unknown {e : Errand σ S C A} {h : Handle} (about : e.handle? = some h)
    (dead : d.leases.slots.get? h = none) :
    Course dev granted done d e (.error (.unknownHandle h)) d
  | used {h : Handle} {key : UInt32} {lease : Lease S C} {work : Action Fault (σ × Lease S C) A}
    (live : d.leases.slots.get? h = some (key, lease)) :
    Course dev granted done d (.use h work) (work (d.device, lease)).answer
      (d.after h (work (d.device, lease)).state)
  | kept {h : Handle} {key : UInt32} {lease : Lease S C} {f : Fault}
    (live : d.leases.slots.get? h = some (key, lease))
    (failed : (dev.windUp (d.device, lease)).answer = .error f) :
    Course dev granted done d (.release h) (.error f)
      (d.after h (dev.windUp (d.device, lease)).state)
  | released {h : Handle} {key : UInt32} {lease : Lease S C}
    (live : d.leases.slots.get? h = some (key, lease))
    (closed : (dev.windUp (d.device, lease)).answer = .ok ()) :
    Course dev granted done d (.release h) (.ok done)
      ((d.after h (dev.windUp (d.device, lease)).state).strike h key)
  | looked {h : Handle} {key : UInt32} {lease : Lease S C} {view : S → A}
    (live : d.leases.slots.get? h = some (key, lease)) :
    Course dev granted done d (.look h view) (.ok (view lease.settings)) d

namespace Device

variable (dev : Device σ S C) {d : Desk σ S C} {s : S}

theorem windUp_apply (p : σ × Lease S C) :
    (∀ f, (dev.rest p).answer = .error f →
      (dev.windUp p).answer = .error f ∧ (dev.windUp p).state = (dev.rest p).state) ∧
    ((dev.rest p).answer = .ok () →
      (dev.windUp p).answer = (dev.close (dev.rest p).state).answer ∧
        (dev.windUp p).state = (dev.close (dev.rest p).state).state) := by
  constructor
  · intro f failed
    exact Action.bind_error (fun _ => dev.close) failed
  · intro rests
    exact Action.bind_ok (f := fun _ => dev.close) rests

theorem request_taken (busy : d.leases.containsKey (dev.trade.key s) = true) :
    dev.request s d = ⟨.error (dev.taken s), [], d⟩ := by
  simp only [request, Action.bind_apply, Action.get_apply, busy, if_true, Action.fail_apply]
  rfl

theorem request_free (free : d.leases.containsKey (dev.trade.key s) = false) :
    (∀ f, (dev.claim s d.device).answer = .error f →
      (dev.request s d).answer = .error f ∧
        (dev.request s d).state = { d with device := (dev.claim s d.device).state }) ∧
    (∀ c, (dev.claim s d.device).answer = .ok c →
      (dev.request s d).answer = .ok ⟨d.counter⟩ ∧
        (dev.request s d).state =
          d.lend (dev.trade.key s) (dev.claim s d.device).state ⟨s, c⟩) := by
  have open_desk : dev.request s d = (do
      let channel ← Action.zoom Desk.deviceLens (dev.claim s)
      let h ← dev.enroll s channel
      Action.note ⟨.debug, "Requested " ++ dev.trade.noun,
        ("backend", dev.backend) :: dev.keyDetail (dev.trade.key s) :: ("handle", h.text) ::
          dev.trade.details s⟩
      return h : Action Fault (Desk σ S C) Handle) d := by
    simp only [request, Action.bind_apply, Action.get_apply, free]
    rfl
  rw [open_desk]
  constructor
  · intro f claim
    exact Action.bind_error _ (s := d) claim
  · intro c claim
    obtain ⟨answer, state⟩ := Action.bind_ok (s := d)
      (x := Action.zoom Desk.deviceLens (dev.claim s)) (f := fun channel => do
        let h ← dev.enroll s channel
        Action.note ⟨.debug, "Requested " ++ dev.trade.noun,
          ("backend", dev.backend) :: dev.keyDetail (dev.trade.key s) :: ("handle", h.text) ::
            dev.trade.details s⟩
        return h) claim
    rw [answer, state]
    have entry : dev.enroll s c (Action.zoom Desk.deviceLens (dev.claim s) d).state =
        ⟨.ok ⟨d.counter⟩, [], d.lend (dev.trade.key s) (dev.claim s d.device).state ⟨s, c⟩⟩ := by
      simp only [enroll, Action.zoom_apply, Desk.deviceLens]
      rw [HandleTable.insert?_of_free free]
      rfl
    simp only [Action.bind_apply, entry]
    exact ⟨rfl, rfl⟩

theorem map_request_ok {B : Type} (granted : Handle → B) {c : C} {s' : σ}
    (free : d.leases.containsKey (dev.trade.key s) = false)
    (claims : (dev.claim s d.device).answer = .ok c) (left : (dev.claim s d.device).state = s') :
    ((granted <$> dev.request s) d).answer = .ok (granted ⟨d.counter⟩) ∧
      ((granted <$> dev.request s) d).state = d.lend (dev.trade.key s) s' ⟨s, c⟩ := by
  obtain ⟨answer, state⟩ := (dev.request_free free).2 c claims
  rw [left] at state
  rw [Action.map_apply]
  exact ⟨congrArg (Except.map granted) answer, state⟩

theorem release_unknown {h : Handle} (dead : d.leases.slots.get? h = none) :
    dev.release h d = ⟨.error (.unknownHandle h), [], d⟩ := by
  simp only [release, Action.bind_apply, Desk.withLease, HandleTable.get?_eq_none_iff.mpr dead]

theorem release_live {h : Handle} {key : UInt32} {lease : Lease S C}
    (live : d.leases.slots.get? h = some (key, lease)) :
    (∀ f, (dev.windUp (d.device, lease)).answer = .error f →
      (dev.release h d).answer = .error f ∧
        (dev.release h d).state = d.after h (dev.windUp (d.device, lease)).state) ∧
    ((dev.windUp (d.device, lease)).answer = .ok () →
      (dev.release h d).answer = .ok () ∧
        (dev.release h d).state =
          (d.after h (dev.windUp (d.device, lease)).state).strike h key) := by
  have work := Desk.withLease_live live dev.windUp
  have steps : dev.release h = Desk.withLease h dev.windUp >>= fun _ => dev.strike h := rfl
  rw [steps]
  constructor
  · intro f failed
    have := Action.bind_error (s := d) (x := Desk.withLease h dev.windUp) (fun _ => dev.strike h)
      (by rw [work]; exact failed)
    rwa [work] at this
  · intro closed
    have := Action.bind_ok (s := d) (x := Desk.withLease h dev.windUp) (f := fun _ => dev.strike h)
      (by rw [work]; exact closed)
    rw [work] at this
    have still := Desk.slots_after live (dev.windUp (d.device, lease)).state
    simp only [strike, HandleTable.remove?_of_some still] at this
    exact this

private theorem tryLast_apply (verb : String) (key : UInt32) (step : Action Fault (σ × Lease S C) Unit)
    (p : σ × Lease S C) : (dev.tryLast verb key step p).answer = .ok () ∧
      (dev.tryLast verb key step p).state = (step p).state := by
  unfold tryLast
  rw [Action.bind_apply, Action.attempt_apply]
  cases (step p).answer <;> exact ⟨rfl, rfl⟩

theorem dismiss_state (h : Handle) (key : UInt32) (p : σ × Lease S C) :
    (dev.dismiss h key p).state = (dev.close (dev.rest p).state).state := by
  obtain ⟨answer, state⟩ := dev.tryLast_apply "disable" key dev.rest p
  have last := (dev.tryLast_apply dev.trade.closing key dev.close (dev.rest p).state).2
  rw [← state] at last ⊢
  have both := (Action.bind_ok (x := dev.tryLast "disable" key dev.rest)
    (f := fun _ => dev.tryLast dev.trade.closing key dev.close) answer).2
  exact both.trans last

theorem dismissAll_cons (h : Handle) (key : UInt32) (lease : Lease S C)
    (rest : List (Handle × UInt32 × Lease S C)) (s : σ) :
    (dev.dismissAll ((h, key, lease) :: rest) s).state =
      (dev.dismissAll rest (dev.dismiss h key (s, lease)).state.1).state := rfl

end Device

namespace Errand

variable (dev : Device σ S C) (granted : Handle → A) (done : A) (d : Desk σ S C)

private theorem course_request (s : S) :
    Course dev granted done d (.request (.ok ()) s) ((granted <$> dev.request s) d).answer
      ((granted <$> dev.request s) d).state := by
  rw [Action.map_apply]
  cases key : d.leases.containsKey (dev.trade.key s) with
  | true =>
    rw [dev.request_taken key]
    exact .taken key
  | false =>
    obtain ⟨refused, accepted⟩ := dev.request_free key
    cases claim : (dev.claim s d.device).answer with
    | error f =>
      obtain ⟨answer, state⟩ := refused f claim
      rw [answer, state]
      exact .declined key claim
    | ok c =>
      obtain ⟨answer, state⟩ := accepted c claim
      rw [answer, state]
      exact .granted key claim

private theorem course_release (h : Handle) :
    Course dev granted done d (.release h) (((fun _ => done) <$> dev.release h) d).answer
      (((fun _ => done) <$> dev.release h) d).state := by
  rw [Action.map_apply]
  cases slot : d.leases.slots.get? h with
  | none =>
    rw [dev.release_unknown slot]
    exact .unknown rfl slot
  | some p =>
    obtain ⟨key, lease⟩ := p
    obtain ⟨fails, succeeds⟩ := dev.release_live slot
    cases closing : (dev.windUp (d.device, lease)).answer with
    | error f =>
      obtain ⟨answer, state⟩ := fails f closing
      rw [answer, state]
      exact .kept slot closing
    | ok u =>
      obtain ⟨answer, state⟩ := succeeds closing
      rw [answer, state]
      exact .released slot closing

/-- Every errand takes one of the courses. -/
theorem course (e : Errand σ S C A) :
    Course dev granted done d e (e.run dev granted done d).answer
      (e.run dev granted done d).state := by
  cases e with
  | request check s =>
    cases check with
    | error f => exact .barred
    | ok u => exact course_request dev granted done d s
  | release h => exact course_release dev granted done d h
  | use h work =>
    cases slot : d.leases.slots.get? h with
    | none =>
      simp only [run, Desk.withLease, HandleTable.get?_eq_none_iff.mpr slot]
      exact .unknown rfl slot
    | some p =>
      simp only [run, Desk.withLease_live slot]
      exact .used slot
  | look h view =>
    cases slot : d.leases.slots.get? h with
    | none =>
      simp only [run, Desk.inspect, HandleTable.get?_eq_none_iff.mpr slot]
      exact .unknown rfl slot
    | some p =>
      simp only [run, Desk.inspect, HandleTable.get?_eq_some_iff.mpr ⟨p.1, slot⟩]
      exact .looked slot

end Errand

namespace Course

variable {dev : Device σ S C} {granted : Handle → A} {done : A} {d d' : Desk σ S C}
  {e : Errand σ S C A} {answer : Except Fault A}

theorem of_dead (course : Course dev granted done d e answer d') {h : Handle}
    (about : e.handle? = some h) (dead : d.leases.slots.get? h = none) :
    answer = .error (.unknownHandle h) ∧ d' = d := by
  cases course with
  | barred | taken | declined | granted => cases about
  | unknown about' dead' =>
    rw [about] at about'
    obtain rfl := Option.some.inj about'
    exact ⟨rfl, rfl⟩
  | used live | kept live | released live | looked live =>
    obtain rfl := Option.some.inj about
    rw [live] at dead
    cases dead

theorem of_barred {f : Fault} {s : S} (course : Course dev granted done d (.request (.error f) s) answer d') :
    answer = .error f ∧ d' = d := by
  cases course with
  | barred => exact ⟨rfl, rfl⟩
  | unknown about => cases about

theorem of_taken {s : S} (course : Course dev granted done d (.request (.ok ()) s) answer d')
    (busy : d.leases.containsKey (dev.trade.key s) = true) :
    answer = .error (dev.taken s) ∧ d' = d := by
  cases course with
  | taken => exact ⟨rfl, rfl⟩
  | declined free | granted free =>
    rw [free] at busy
    cases busy
  | unknown about => cases about

theorem of_free {s : S} (course : Course dev granted done d (.request (.ok ()) s) answer d')
    (free : d.leases.containsKey (dev.trade.key s) = false) :
    (∀ f, (dev.claim s d.device).answer = .error f →
      answer = .error f ∧ d' = { d with device := (dev.claim s d.device).state }) ∧
    (∀ c, (dev.claim s d.device).answer = .ok c → answer = .ok (granted ⟨d.counter⟩) ∧
      d' = d.lend (dev.trade.key s) (dev.claim s d.device).state ⟨s, c⟩) := by
  cases course with
  | taken busy =>
    rw [free] at busy
    cases busy
  | declined _ claim =>
    rw [claim]
    refine ⟨fun f same => ⟨?_, rfl⟩, fun _ contra => nomatch contra⟩
    rw [Except.error.inj same]
  | granted _ claim =>
    rw [claim]
    refine ⟨(fun _ contra => nomatch contra), fun c same => ⟨rfl, ?_⟩⟩
    rw [Except.ok.inj same]
  | unknown about => cases about

section

variable {h : Handle} {key : UInt32} {lease : Lease S C}

theorem of_used {work : Action Fault (σ × Lease S C) A}
    (course : Course dev granted done d (.use h work) answer d')
    (live : d.leases.slots.get? h = some (key, lease)) :
    answer = (work (d.device, lease)).answer ∧ d' = d.after h (work (d.device, lease)).state := by
  cases course with
  | unknown about dead =>
    cases about
    rw [live] at dead
    cases dead
  | used live' =>
    rw [live] at live'
    cases live'
    exact ⟨rfl, rfl⟩

theorem of_looked {view : S → A} (course : Course dev granted done d (.look h view) answer d')
    (live : d.leases.slots.get? h = some (key, lease)) :
    answer = .ok (view lease.settings) ∧ d' = d := by
  cases course with
  | unknown about dead =>
    cases about
    rw [live] at dead
    cases dead
  | looked live' =>
    rw [live] at live'
    cases live'
    exact ⟨rfl, rfl⟩

theorem of_release (course : Course dev granted done d (.release h) answer d')
    (live : d.leases.slots.get? h = some (key, lease)) :
    (∃ f, (dev.windUp (d.device, lease)).answer = .error f ∧ answer = .error f ∧
        d' = d.after h (dev.windUp (d.device, lease)).state) ∨
      ((dev.windUp (d.device, lease)).answer = .ok () ∧ answer = .ok done ∧
        d' = (d.after h (dev.windUp (d.device, lease)).state).strike h key) := by
  cases course with
  | unknown about dead =>
    cases about
    rw [live] at dead
    cases dead
  | kept live' failed =>
    rw [live] at live'
    cases live'
    exact .inl ⟨_, failed, rfl, rfl⟩
  | released live' closed =>
    rw [live] at live'
    cases live'
    exact .inr ⟨closed, rfl, rfl⟩

end

theorem counter_eq (course : Course dev granted done d e answer d') :
    (e.handle? = none ∧ answer = .ok (granted ⟨d.counter⟩) ∧ d'.counter = d.counter + 1) ∨
      ((e.handle? = none → ∃ f, answer = .error f) ∧ d'.counter = d.counter) := by
  cases course with
  | granted free claim => exact .inl ⟨rfl, rfl, rfl⟩
  | barred | taken | declined => exact .inr ⟨fun _ => ⟨_, rfl⟩, rfl⟩
  | unknown about dead => exact .inr ⟨fun _ => ⟨_, rfl⟩, rfl⟩
  | used live | kept live | released live | looked live =>
    exact .inr ⟨(fun request => nomatch request), rfl⟩

theorem counter_of_ok {a : A} (course : Course dev granted done d e answer d')
    (request : e.handle? = none) (ok : answer = .ok a) : d'.counter = d.counter + 1 := by
  rcases course.counter_eq with ⟨_, _, counter⟩ | ⟨fails, _⟩
  · exact counter
  · obtain ⟨f, failed⟩ := fails request
    rw [ok] at failed
    cases failed

theorem counter_of_error (course : Course dev granted done d e answer d')
    (failed : e.handle? = none → ∃ f, answer = .error f) : d'.counter = d.counter := by
  rcases course.counter_eq with ⟨request, ok, _⟩ | ⟨_, counter⟩
  · obtain ⟨f, answer⟩ := failed request
    rw [ok] at answer
    cases answer
  · exact counter

theorem sound (course : Course dev granted done d e answer d') (s : d.leases.Sound d.counter) :
    d'.leases.Sound d'.counter := by
  cases course with
  | barred | taken | declined | unknown | looked => exact s
  | granted free claim => exact s.entered free _
  | used live | kept live => exact s.set live _
  | released live closed =>
    exact (s.set live _).without (Desk.slots_after live _)

/-- A handle that was drawn before and has no lease gets none. -/
theorem stays_dead (course : Course dev granted done d e answer d') {h : Handle}
    (old : h.number < d.counter) (dead : d.leases.slots.get? h = none) :
    d'.leases.slots.get? h = none := by
  cases course with
  | barred | taken | declined | unknown | looked => exact dead
  | granted free claim =>
    have other : h ≠ ⟨d.counter⟩ := by
      rintro rfl
      exact Nat.lt_irrefl _ old
    exact (HandleTable.slots_entered _ _ _ h).trans ((if_neg other).trans dead)
  | used live | kept live =>
    refine (HandleTable.slots_set live _ h).trans ?_
    split
    · next same =>
      subst same
      rw [live] at dead
      cases dead
    · exact dead
  | released live closed =>
    refine (HandleTable.slots_without _ _ h).trans ?_
    split
    · rfl
    · next other => exact (HandleTable.slots_set live _ h).trans ((if_neg other).trans dead)

theorem stays_live (course : Course dev granted done d e answer d') {h : Handle}
    (other : e ≠ .release h) (live : ∃ p, d.leases.slots.get? h = some p) :
    ∃ p, d'.leases.slots.get? h = some p := by
  cases course with
  | barred | taken | declined | unknown | looked => exact live
  | granted free claim =>
    simp only [Desk.lend, HandleTable.slots_entered]
    split
    · exact ⟨_, rfl⟩
    · exact live
  | used at_work | kept at_work =>
    simp only [Desk.after, HandleTable.slots_set at_work]
    split
    · exact ⟨_, rfl⟩
    · exact live
  | released at_work closed =>
    have differs : h ≠ _ := fun same => other (congrArg Errand.release same.symm)
    simp only [Desk.strike, Desk.after, HandleTable.slots_without, HandleTable.slots_set at_work,
      if_neg differs]
    exact live

theorem device_related {R : σ → σ → Prop} (course : Course dev granted done d e answer d')
    (still : ∀ s, R s s) (claims : ∀ c s, R s (dev.claim c s).state)
    (works : ∀ h work, e = .use h work → ∀ p, R p.1 (work p).state.1)
    (closes : ∀ p, R p.1 (dev.windUp p).state.1) : R d.device d'.device := by
  cases course with
  | barred | taken | unknown | looked => exact still _
  | declined | granted => exact claims _ _
  | used => exact works _ _ rfl (d.device, _)
  | kept | released => exact closes (d.device, _)

/-- A handle that was released was live, and is not any more. -/
theorem released_dead {h : Handle} {a : A}
    (course : Course dev granted done d (.release h) (.ok a) d') :
    (∃ p, d.leases.slots.get? h = some p) ∧ d'.leases.slots.get? h = none := by
  cases course with
  | released live closed =>
    exact ⟨⟨_, live⟩, (HandleTable.slots_without _ _ h).trans (if_pos rfl)⟩

end Course

/-! ### The three kinds of desks -/

namespace Adc.Driver

variable (d : Adc.Driver σ C)

/-- What a command to a desk of analog inputs comes down to. -/
def errand : Adc.Command → Errand σ Adc.Config C Adc.Answer
  | .request c => .request (.ok ()) c
  | .value h => .use h (.sample <$> Action.zoom Lease.channelLens d.read)
  | .release h => .release h
  | .config h => .look h .config

theorem perform_eq (k : Adc.Command) :
    d.perform k = (d.errand k).run d.device .granted .done := by
  cases k with
  | value h => exact Desk.withLease_map h _ _
  | config h => exact Desk.inspect_map h _ _
  | _ => rfl

end Adc.Driver

namespace Gpio.Driver

variable (d : Gpio.Driver σ C)

def driveLine (level : Bool) : Action Fault (σ × Lease Gpio.Config C) Unit := do
  let c := (← Action.get).2.settings
  if c.direction = .output then Action.zoom Lease.channelLens (d.write level)
  else Action.fail (.invalidArgument ("gpio " ++ Text.number c.line.toNat ++ " is an input line"))

def errand : Gpio.Command → Errand σ Gpio.Config C Gpio.Answer
  | .request c => .request (.ok ()) c
  | .release h => .release h
  | .level h => .use h (.level <$> Action.zoom Lease.channelLens d.read)
  | .drive h b => .use h ((fun _ => .done) <$> d.driveLine b)
  | .name h => .look h (fun c => .name c.name)
  | .direction h => .look h (fun c => .direction c.direction)
  | .line h => .look h (fun c => .line c.line)

theorem perform_eq (k : Gpio.Command) :
    d.perform k = (d.errand k).run d.device .granted .done := by
  cases k with
  | level h => exact Desk.withLease_map h _ _
  | drive h b => exact Desk.withLease_map h (d.driveLine b) _
  | name h => exact Desk.inspect_map h _ _
  | direction h => exact Desk.inspect_map h _ _
  | line h => exact Desk.inspect_map h _ _
  | _ => rfl

end Gpio.Driver

namespace Pwm.Driver

variable (d : Pwm.Driver σ C)

def changePeriod (period : UInt32) : Action Fault (σ × Lease Pwm.Signal C) Unit := do
  Action.ofExcept (Pwm.checkDuty period (← recorded).config.duty)
  Action.zoom Lease.channelLens (d.setPeriod period)
  amend fun s => { s with config := { s.config with period } }

def changeDuty (duty : UInt32) : Action Fault (σ × Lease Pwm.Signal C) Unit := do
  Action.ofExcept (Pwm.checkDuty (← recorded).config.period duty)
  Action.zoom Lease.channelLens (d.setDuty duty)
  amend fun s => { s with config := { s.config with duty } }

/-- Changes the polarity of the output at work, which stands still meanwhile. -/
def changePolarity (polarity : Pwm.Polarity) : Action Fault (σ × Lease Pwm.Signal C) Unit := do
  let running := (← recorded).running
  if running then d.run false
  Action.zoom Lease.channelLens (d.setPolarity polarity)
  amend fun s => { s with config := { s.config with polarity } }
  if running then d.run true

def errand : Pwm.Command → Errand σ Pwm.Signal C Pwm.Answer
  | .request c => .request c.check ⟨c, false⟩
  | .release h => .release h
  | .enable h => .use h ((fun _ => .done) <$> d.run true)
  | .disable h => .use h ((fun _ => .done) <$> d.run false)
  | .setPeriod h period => .use h ((fun _ => .done) <$> d.changePeriod period)
  | .setDuty h duty => .use h ((fun _ => .done) <$> d.changeDuty duty)
  | .setPolarity h polarity => .use h ((fun _ => .done) <$> d.changePolarity polarity)
  | .config h => .look h (fun s => .config s.config)
  | .isEnabled h => .look h (fun s => .enabled s.running)

theorem perform_eq (k : Pwm.Command) :
    d.perform k = (d.errand k).run d.device .granted .done := by
  cases k with
  | request c =>
    change (Pwm.Answer.granted <$>
        (Action.ofExcept c.check >>= fun _ => d.device.request ⟨c, false⟩)) =
      (Action.ofExcept c.check >>= fun _ => Pwm.Answer.granted <$> d.device.request ⟨c, false⟩)
    rw [map_bind]
  | enable h => exact Desk.withLease_map h (d.run true) _
  | disable h => exact Desk.withLease_map h (d.run false) _
  | setPeriod h period => exact Desk.withLease_map h (d.changePeriod period) _
  | setDuty h duty => exact Desk.withLease_map h (d.changeDuty duty) _
  | setPolarity h polarity => exact Desk.withLease_map h (d.changePolarity polarity) _
  | config h => exact Desk.inspect_map h _ _
  | isEnabled h => exact Desk.inspect_map h _ _
  | release h => rfl

end Pwm.Driver

end Peripherals

import Peripherals.Proofs.Desk.Outside
/-!
What lasts of a lease: properties that all work on leases keeps. Main statement: the lease under a
handle has such a property for as long as the handle is live, whatever is done in between.
-/

set_option autoImplicit false

namespace Peripherals

variable {σ S C A K E : Type} {d d' : Desk σ S C} {h : Handle} {key : UInt32} {Q : Lease S C → Prop}

/-- The handle was drawn before, and as long as it is live it has a lease like this on this key. -/
structure Desk.Lasting (d : Desk σ S C) (h : Handle) (key : UInt32) (Q : Lease S C → Prop) : Prop where
  old : h.number < d.counter
  lease : ∀ p, d.leases.slots.get? h = some p → p.1 = key ∧ Q p.2

/-- Work on a lease and its winding up leave such a lease as it should be. -/
structure Device.Spares (dev : Device σ S C) (Q : Lease S C → Prop) (e : Errand σ S C A) : Prop where
  works : ∀ h work, e = .use h work → ∀ s lease, Q lease → Q (work (s, lease)).state.2
  closes : ∀ s lease, Q lease → Q (dev.windUp (s, lease)).state.2

theorem Desk.Lasting.live (lasting : d.Lasting h key Q) (live : d.leases.keyOf? h ≠ none) :
    ∃ lease, d.leases.slots.get? h = some (key, lease) ∧ Q lease := by
  obtain ⟨key', known⟩ := Option.ne_none_iff_exists'.mp live
  obtain ⟨lease, slot⟩ := HandleTable.keyOf?_eq_some_iff.mp known
  obtain ⟨rfl, good⟩ := lasting.lease _ slot
  exact ⟨lease, slot, good⟩

theorem Desk.lasting_lend (d : Desk σ S C) (device : σ) {lease : Lease S C} (good : Q lease) :
    (d.lend key device lease).Lasting ⟨d.counter⟩ key Q where
  old := Nat.lt_succ_self d.counter
  lease := by
    intro p slot
    have slots := (HandleTable.slots_entered _ _ _ _).symm.trans slot
    rw [if_pos rfl] at slots
    obtain rfl := Option.some.inj slots
    exact ⟨rfl, good⟩

theorem Device.lasting_of_request (dev : Device σ S C) {s : S}
    (granted : (dev.request s d).answer = .ok h)
    (good : ∀ c, (dev.claim s d.device).answer = .ok c → Q ⟨s, c⟩) :
    (dev.request s d).state.Lasting h (dev.trade.key s) Q := by
  cases free : d.leases.containsKey (dev.trade.key s) with
  | true =>
    rw [dev.request_taken free] at granted
    cases granted
  | false =>
    obtain ⟨refused, accepted⟩ := dev.request_free free
    cases claim : (dev.claim s d.device).answer with
    | error f =>
      rw [(refused f claim).1] at granted
      cases granted
    | ok c =>
      obtain ⟨answer, state⟩ := accepted c claim
      obtain rfl := Except.ok.inj (answer.symm.trans granted)
      rw [state]
      exact d.lasting_lend _ (good c claim)

theorem Desk.lasting_of_live (sound : d.leases.Sound d.counter) {lease : Lease S C}
    (live : d.leases.slots.get? h = some (key, lease)) (good : Q lease) : d.Lasting h key Q where
  old := sound.below h _ live
  lease := by
    intro p slot
    obtain rfl := Option.some.inj (live.symm.trans slot)
    exact ⟨rfl, good⟩

private theorem Desk.Lasting.after (lasting : d.Lasting h key Q) {h' : Handle} {key' : UInt32}
    {lease : Lease S C} (live : d.leases.slots.get? h' = some (key', lease)) {p : σ × Lease S C}
    (kept : Q lease → Q p.2) : (d.after h' p).Lasting h key Q where
  old := lasting.old
  lease := by
    intro q slot
    have slots := (HandleTable.slots_set live p.2 h).symm.trans slot
    split at slots
    · next same =>
      subst same
      obtain rfl := Option.some.inj slots
      obtain ⟨on, good⟩ := lasting.lease _ live
      exact ⟨on, kept good⟩
    · exact lasting.lease q slots

private theorem Course.lasting {dev : Device σ S C} {granted : Handle → A} {done : A}
    {e : Errand σ S C A}
    {answer : Except Fault A} (course : Course dev granted done d e answer d')
    (spares : dev.Spares Q e) (lasting : d.Lasting h key Q) : d'.Lasting h key Q := by
  cases course with
  | barred | taken | unknown | looked => exact lasting
  | declined => exact ⟨lasting.old, lasting.lease⟩
  | granted free claim =>
    refine ⟨Nat.lt_succ_of_lt lasting.old, fun p slot => ?_⟩
    have other : h ≠ ⟨d.counter⟩ := by
      rintro rfl
      exact Nat.lt_irrefl _ lasting.old
    have slots := (HandleTable.slots_entered _ _ _ h).symm.trans slot
    rw [if_neg other] at slots
    exact lasting.lease p slots
  | used live => exact lasting.after live (spares.works _ _ rfl _ _)
  | kept live => exact lasting.after live (spares.closes _ _)
  | @released h' key' lease live closed =>
    have after := lasting.after (p := (dev.windUp (d.device, lease)).state) live (spares.closes _ _)
    refine ⟨after.old, fun p slot => ?_⟩
    have slots := (HandleTable.slots_without _ _ h).symm.trans slot
    split at slots
    · cases slots
    · exact after.lease p slots

/-- Where nothing alters leases, each of them is an old one, or the one that was just handed out. -/
theorem Course.slots_of_spared {dev : Device σ S C} {granted : Handle → A} {done : A}
    {e : Errand σ S C A} {answer : Except Fault A} (course : Course dev granted done d e answer d')
    (spares : ∀ lease, dev.Spares (· = lease) e) {p : UInt32 × Lease S C}
    (slot : d'.leases.slots.get? h = some p) :
    d.leases.slots.get? h = some p ∨
      ∃ s c, e = .request (.ok ()) s ∧ answer = .ok (granted h) ∧ h = ⟨d.counter⟩ ∧
        (dev.claim s d.device).answer = .ok c ∧ p = (dev.trade.key s, ⟨s, c⟩) := by
  have unaltered {h' : Handle} {key' : UInt32} {lease' : Lease S C} {q : σ × Lease S C}
      (live : d.leases.slots.get? h' = some (key', lease')) (kept : q.2 = lease')
      (slot : (d.after h' q).leases.slots.get? h = some p) : d.leases.slots.get? h = some p := by
    have slots := (HandleTable.slots_set live q.2 h).symm.trans slot
    split at slots
    · next same =>
      rw [same, live, ← kept]
      exact slots
    · exact slots
  cases course with
  | barred | taken | declined | unknown | looked => exact .inl slot
  | @granted s c free claim =>
    have slots := (HandleTable.slots_entered _ _ _ h).symm.trans slot
    split at slots
    · next fresh =>
      subst fresh
      exact .inr ⟨s, c, rfl, rfl, rfl, claim, (Option.some.inj slots).symm⟩
    · exact .inl slots
  | @used h' key' lease' work live =>
    exact .inl (unaltered live ((spares lease').works h' work rfl d.device lease' rfl) slot)
  | @kept h' key' lease' f live failed =>
    exact .inl (unaltered live ((spares lease').closes d.device lease' rfl) slot)
  | @released h' key' lease' live closed =>
    have slots := (HandleTable.slots_without _ _ h).symm.trans slot
    split at slots
    · cases slots
    · exact .inl (unaltered live ((spares lease').closes d.device lease' rfl) slots)

theorem Desk.Lasting.perform {granted : Handle → A} {done : A} {dev : Device σ S C}
    {errand : K → Errand σ S C A} {perform : K → Action Fault (Desk σ S C) A}
    (lasting : d.Lasting h key Q) (same : ∀ k, perform k = (errand k).run dev granted done) (k : K)
    (spares : dev.Spares Q (errand k)) : (perform k d).state.Lasting h key Q := by
  have course := (errand k).course dev granted done d
  rw [← same] at course
  exact course.lasting spares lasting

theorem Desk.Lasting.run {commands : K → Action Fault (Desk σ S C) A} {change : E → σ → σ}
    (step : ∀ k (d : Desk σ S C), d.Lasting h key Q → (commands k d).state.Lasting h key Q)
    (lasting : d.Lasting h key Q) (os : List (Occurrence K E)) :
    (Action.runAll (Occurrence.perform commands change) os d).Lasting h key Q := by
  refine Action.runAll_invariant (I := fun d => Desk.Lasting d h key Q) (fun o d lasting => ?_) os lasting
  cases o with
  | command k =>
    rw [(Occurrence.perform_command k d).2]
    exact step k d lasting
  | outside e => exact ⟨lasting.old, lasting.lease⟩

/-- The leases of a desk are sound after every run of errands, whatever changes the device as well. -/
theorem Desk.sound_run {dev : Device σ S C} {granted : Handle → A} {done : A} {errand : K → Errand σ S C A}
    {perform : K → Action Fault (Desk σ S C) A} (same : ∀ k, perform k = (errand k).run dev granted done)
    (change : E → σ → σ) (s : σ) (counter : Nat) (os : List (Occurrence K E)) :
    let d := Action.runAll (Occurrence.perform perform change) os (Desk.vacant s counter)
    d.leases.Sound d.counter := by
  refine Action.runAll_invariant (I := fun d => HandleTable.Sound (Desk.leases d) (Desk.counter d))
    (fun o d sound => ?_) os (HandleTable.sound_empty counter)
  cases o with
  | command k =>
    rw [(Occurrence.perform_command k d).2, same]
    exact ((errand k).course dev granted done d).sound sound
  | outside e => exact sound

end Peripherals

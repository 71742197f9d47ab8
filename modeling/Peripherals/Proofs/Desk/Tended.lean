import Peripherals.Proofs.Desk.Errand
/-!
Properties of keys, each with its lease if it has one. Main statement: what all work on a lease keeps,
for its own key and for the others, holds of every key after every errand.
-/

set_option autoImplicit false

namespace Peripherals

variable {σ S C A α β : Type}

/-- A property of a key, given the device and the lease on the key. -/
abbrev KeyProperty (σ S C : Type) := UInt32 → σ → Option (Lease S C) → Prop

variable {P : KeyProperty σ S C}

/-! ### Work on a lease -/

/-- Started on a lease with `R`, the work keeps `P` of its key and of all others, and if it succeeds
the lease has `Q`. -/
def Keeps (P : KeyProperty σ S C) (R : Lease S C → Prop) (x : Action Fault (σ × Lease S C) α)
    (Q : α → Lease S C → Prop) : Prop :=
  ∀ key p, P key p.1 (some p.2) → R p.2 →
    P key (x p).state.1 (some (x p).state.2) ∧
      (∀ other l, other ≠ key → P other p.1 l → P other (x p).state.1 l) ∧
      ∀ a, (x p).answer = .ok a → Q a (x p).state.2

namespace Keeps

variable {R R' : Lease S C → Prop} {x : Action Fault (σ × Lease S C) α}
  {Q Q' : α → Lease S C → Prop}

theorem of_still (still : ∀ p, (x p).state = p)
    (sees : ∀ p a, R p.2 → (x p).answer = .ok a → Q a p.2) :
    Keeps P R x Q := by
  intro key p good ready
  rw [still p]
  exact ⟨good, fun _ _ _ h => h, fun a answer => sees p a ready answer⟩

theorem pure {a : α} (sees : ∀ lease, R lease → Q a lease) : Keeps P R (Pure.pure a) Q :=
  of_still (fun _ => rfl) fun p _ ready answer => Except.ok.inj answer ▸ sees p.2 ready

theorem weaken (h : Keeps P R x Q) (before : ∀ lease, R' lease → R lease)
    (after : ∀ a lease, Q a lease → Q' a lease) : Keeps P R' x Q' := by
  intro key p good ready
  obtain ⟨kept, others, post⟩ := h key p good (before _ ready)
  exact ⟨kept, others, fun a answer => after a _ (post a answer)⟩

theorem bind {f : α → Action Fault (σ × Lease S C) β} {Q' : β → Lease S C → Prop}
    (hx : Keeps P R x Q) (hf : ∀ a, Keeps P (Q a) (f a) Q') : Keeps P R (x >>= f) Q' := by
  intro key p good ready
  obtain ⟨kept, others, post⟩ := hx key p good ready
  cases h : (x p).answer with
  | error e =>
    obtain ⟨answer, state⟩ := Action.bind_error f h
    rw [answer, state]
    exact ⟨kept, others, fun b fails => nomatch fails⟩
  | ok a =>
    obtain ⟨answer, state⟩ := Action.bind_ok (f := f) h
    obtain ⟨kept', others', post'⟩ := hf a key _ kept (post a h)
    rw [answer, state]
    exact ⟨kept', fun other l differs was => others' other l differs (others other l differs was),
      post'⟩

theorem map (h : Keeps P R x Q) (f : α → β) : Keeps P R (f <$> x) fun _ _ => True :=
  h.bind fun _ => pure fun _ _ => trivial

end Keeps

/-! ### Desks -/

structure Desk.Tended (P : KeyProperty σ S C) (d : Desk σ S C) : Prop where
  sound : d.leases.Sound d.counter
  holds : ∀ key, P key d.device (d.leases.on? key)

/-- What a device does for a desk keeps the property, for requests that ask for `fit` settings. -/
structure Device.Tends (dev : Device σ S C) (P : KeyProperty σ S C) (fit : S → Prop) : Prop where
  claim_others : ∀ s t, fit s → P (dev.trade.key s) t none →
    ∀ key l, key ≠ dev.trade.key s → P key t l → P key (dev.claim s t).state l
  claim_error : ∀ s t f, fit s → P (dev.trade.key s) t none → (dev.claim s t).answer = .error f →
    P (dev.trade.key s) (dev.claim s t).state none
  claim_ok : ∀ s t c, fit s → P (dev.trade.key s) t none → (dev.claim s t).answer = .ok c →
    P (dev.trade.key s) (dev.claim s t).state (some ⟨s, c⟩)
  windUp_others : ∀ key p, P key p.1 (some p.2) →
    ∀ other l, other ≠ key → P other p.1 l → P other (dev.windUp p).state.1 l
  windUp_error : ∀ key p f, P key p.1 (some p.2) → (dev.windUp p).answer = .error f →
    P key (dev.windUp p).state.1 (some (dev.windUp p).state.2)
  windUp_ok : ∀ key p, P key p.1 (some p.2) → (dev.windUp p).answer = .ok () →
    P key (dev.windUp p).state.1 none

namespace Desk.Tended

variable {d : Desk σ S C}

theorem vacant {s : σ} (start : ∀ key, P key s none) (counter : Nat) :
    (Desk.vacant s counter : Desk σ S C).Tended P :=
  ⟨HandleTable.sound_empty counter, start⟩

theorem live (t : d.Tended P) {h : Handle} {key : UInt32} {lease : Lease S C}
    (live : d.leases.slots.get? h = some (key, lease)) : P key d.device (some lease) := by
  have on := t.sound.on?_eq_some_iff.mpr ⟨h, live⟩
  rw [← on]
  exact t.holds key

theorem free (t : d.Tended P) {key : UInt32} (free : d.leases.containsKey key = false) :
    P key d.device none := by
  have on := t.sound.on?_eq_none_iff.mpr free
  rw [← on]
  exact t.holds key

theorem after (t : d.Tended P) {h : Handle} {key : UInt32} {lease : Lease S C}
    (live : d.leases.slots.get? h = some (key, lease)) {p : σ × Lease S C}
    (kept : P key p.1 (some p.2))
    (others : ∀ other l, other ≠ key → P other d.device l → P other p.1 l) :
    (d.after h p).Tended P where
  sound := t.sound.set live _
  holds key' := by
    change P key' p.1 ((d.leases.set h p.2).on? key')
    rw [t.sound.on?_set live]
    split
    · next same =>
      subst same
      exact kept
    · next differs => exact others key' _ differs (t.holds key')

private theorem strike (t : d.Tended P) {h : Handle} {key : UInt32} {lease : Lease S C}
    (live : d.leases.slots.get? h = some (key, lease)) {p : σ × Lease S C} (kept : P key p.1 none)
    (others : ∀ other l, other ≠ key → P other d.device l → P other p.1 l) :
    ((d.after h p).strike h key).Tended P := by
  have sound : (d.leases.set h p.2).Sound d.counter := t.sound.set live _
  have still : (d.leases.set h p.2).slots.get? h = some (key, p.2) := Desk.slots_after live p
  refine ⟨sound.without still, fun key' => ?_⟩
  change P key' p.1 (((d.leases.set h p.2).without h key).on? key')
  rw [sound.on?_without still]
  split
  · next same =>
    subst same
    exact kept
  · next differs =>
    rw [t.sound.on?_set live, if_neg differs]
    exact others key' _ differs (t.holds key')

/-- Every course of an errand keeps the property of all keys. -/
theorem step {dev : Device σ S C} {granted : Handle → A} {done : A} {e : Errand σ S C A}
    {answer : Except Fault A} {d' : Desk σ S C} (course : Course dev granted done d e answer d')
    {fit : S → Prop} (tends : dev.Tends P fit) (asks : ∀ s, e = .request (.ok ()) s → fit s)
    (works : ∀ h work, e = .use h work → Keeps P (fun _ => True) work fun _ _ => True)
    (t : d.Tended P) : d'.Tended P := by
  cases course with
  | barred | taken | unknown | looked => exact t
  | @declined s f free claim =>
    have bare := t.free free
    refine ⟨t.sound, fun key => ?_⟩
    by_cases same : key = dev.trade.key s
    · rw [same, t.sound.on?_eq_none_iff.mpr free]
      exact tends.claim_error s _ f (asks s rfl) bare claim
    · exact tends.claim_others s _ (asks s rfl) bare key _ same (t.holds key)
  | @granted s c free claim =>
    have bare := t.free free
    refine ⟨t.sound.entered free _, fun key => ?_⟩
    change P key _ ((d.leases.entered ⟨d.counter⟩ (dev.trade.key s) ⟨s, c⟩).on? key)
    rw [t.sound.on?_entered free]
    split
    · next same =>
      rw [same]
      exact tends.claim_ok s _ c (asks s rfl) bare claim
    · next differs => exact tends.claim_others s _ (asks s rfl) bare key _ differs (t.holds key)
  | @used h key lease work live =>
    obtain ⟨kept, others, _⟩ := works h work rfl key (d.device, lease) (t.live live) trivial
    exact t.after live kept others
  | @kept h key lease f live failed =>
    have good := t.live live
    exact t.after live (tends.windUp_error key _ f good failed)
      (tends.windUp_others key (d.device, lease) good)
  | @released h key lease live closed =>
    have good := t.live live
    exact t.strike live (tends.windUp_ok key _ good closed)
      (tends.windUp_others key (d.device, lease) good)

end Desk.Tended

/-! ### The end of a desk -/

/-- A dismissal settles its key, and leaves all others as they are. -/
def Device.Dismisses (dev : Device σ S C) (P : KeyProperty σ S C) : Prop :=
  ∀ h key s lease, P key s (some lease) →
    P key (dev.dismiss h key (s, lease)).state.1 none ∧
      ∀ other l, other ≠ key → P other s l → P other (dev.dismiss h key (s, lease)).state.1 l

/-- Once all leases on a set of keys are dismissed, every key is settled. -/
theorem Device.Dismisses.dismissAll {dev : Device σ S C} (dismisses : dev.Dismisses P)
    (order : List (Handle × UInt32 × Lease S C)) {s : σ} (keys : (order.map fun e => e.2.1).Nodup)
    (leased : ∀ e ∈ order, P e.2.1 s (some e.2.2))
    (free : ∀ key, (∀ e ∈ order, e.2.1 ≠ key) → P key s none) (key : UInt32) :
    P key (dev.dismissAll order s).state none := by
  induction order generalizing s with
  | nil => exact free key fun e member => nomatch member
  | cons e rest ih =>
    obtain ⟨h, pin, lease⟩ := e
    rw [dev.dismissAll_cons]
    obtain ⟨settled, others⟩ := dismisses h pin s lease (leased _ List.mem_cons_self)
    obtain ⟨fresh, keys'⟩ := List.nodup_cons.mp keys
    have apart (e : Handle × UInt32 × Lease S C) (member : e ∈ rest) : e.2.1 ≠ pin :=
      fun same => fresh (List.mem_map.mpr ⟨e, member, same⟩)
    refine ih keys' (fun e member => ?_) fun key elsewhere => ?_
    · exact others e.2.1 _ (apart e member) (leased e (List.mem_cons_of_mem _ member))
    · by_cases here : key = pin
      · rw [here]
        exact settled
      · refine others key none here (free key fun e member => ?_)
        rcases List.mem_cons.mp member with rfl | later
        · exact fun same => here same.symm
        · exact elsewhere e later

/-- When the desk goes away, in whatever order its leases are dismissed, every key is settled. -/
theorem Desk.Tended.dismissAll {d : Desk σ S C} (t : d.Tended P) {dev : Device σ S C}
    (dismisses : dev.Dismisses P) {order : List (Handle × UInt32 × Lease S C)}
    (perm : order.Perm d.leases.entries) (key : UInt32) :
    P key (dev.dismissAll order d.device).state none := by
  refine dismisses.dismissAll order ?_ (fun e member => ?_) (fun key elsewhere => ?_) key
  · exact (perm.map _).nodup_iff.mpr t.sound.nodup_entries_keys
  · exact t.live (t.sound.slots_of_mem_entries (perm.mem_iff.mp member))
  · refine t.free (Bool.eq_false_iff.mpr fun busy => ?_)
    obtain ⟨h, lease, slot⟩ := t.sound.containsKey_iff.mp busy
    exact elsewhere _ (perm.mem_iff.mpr (t.sound.mem_entries_iff.mpr slot)) rfl

end Peripherals

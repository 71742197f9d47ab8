import Peripherals.Proofs.Desk.Faults
import Peripherals.Proofs.Desk.Owned
import Peripherals.Proofs.Desk.Tended
/-!
Twins: two desks over one sort of device that are the same as far as one key goes, up to the numbers of
the handles that were given out for it. Main statements: an errand that concerns the key, carried out at
both, is answered the same and leaves twins, and an errand that does not, carried out at one of them,
leaves twins too.
-/

set_option autoImplicit false

namespace Peripherals

variable {σ τ S C L A α β : Type}

/-! ### Work within one key -/

/-- How a device is looked at, key by key. Locations, which are channels or leases, have a key, and
only the fit states of the device are spoken of. -/
structure Outlook (σ L τ : Type) where
  look : σ → UInt32 → τ
  keyOf : L → UInt32
  fit : σ → Prop

def Outlook.onLease (v : Outlook σ C τ) : Outlook σ (Lease S C) τ where
  look := v.look
  keyOf lease := v.keyOf lease.channel
  fit := v.fit

/-- Work at a location sees and changes nothing of the device but what belongs to the key. -/
structure Local (v : Outlook σ L τ) (x : Action Fault (σ × L) α) : Prop where
  alike : ∀ s s' l, v.fit s → v.fit s' → v.look s (v.keyOf l) = v.look s' (v.keyOf l) →
    (x (s, l)).answer = (x (s', l)).answer ∧ (x (s, l)).state.2 = (x (s', l)).state.2 ∧
      v.look (x (s, l)).state.1 (v.keyOf l) = v.look (x (s', l)).state.1 (v.keyOf l)
  stays : ∀ s l, v.fit s → v.fit (x (s, l)).state.1 ∧ v.keyOf (x (s, l)).state.2 = v.keyOf l ∧
    ∀ key, key ≠ v.keyOf l → v.look (x (s, l)).state.1 key = v.look s key

namespace Local

variable {v : Outlook σ L τ} {x : Action Fault (σ × L) α}

theorem of_aside {g : L → Except Fault α} {k : L → L}
    (answers : ∀ p, (x p).answer = g p.2) (states : ∀ p, (x p).state = (p.1, k p.2))
    (keeps : ∀ l, v.keyOf (k l) = v.keyOf l) : Local v x where
  alike s s' l _ _ same := by
    rw [answers, answers, states, states]
    exact ⟨rfl, rfl, same⟩
  stays s l fit := by
    rw [states]
    exact ⟨fit, keeps l, fun _ _ => rfl⟩

theorem pure (a : α) : Local v (Pure.pure a : Action Fault (σ × L) α) :=
  of_aside (g := fun _ => .ok a) (k := id) (fun _ => rfl) (fun _ => rfl) fun _ => rfl

theorem fail (f : Fault) : Local v (Action.fail f : Action Fault (σ × L) α) :=
  of_aside (g := fun _ => .error f) (k := id) (fun _ => rfl) (fun _ => rfl) fun _ => rfl

theorem ofExcept (a : Except Fault α) : Local v (Action.ofExcept a : Action Fault (σ × L) α) :=
  of_aside (g := fun _ => a) (k := id) (fun _ => rfl) (fun _ => rfl) fun _ => rfl

theorem bind {f : α → Action Fault (σ × L) β} (hx : Local v x) (hf : ∀ a, Local v (f a)) :
    Local v (x >>= f) where
  alike s s' l fit fit' same := by
    obtain ⟨answer, place, seen⟩ := hx.alike s s' l fit fit' same
    cases h : (x (s, l)).answer with
    | error e =>
      have h' := answer.symm.trans h
      obtain ⟨fails, state⟩ := Action.bind_error f h
      obtain ⟨fails', state'⟩ := Action.bind_error f h'
      rw [fails, fails', state, state']
      exact ⟨rfl, place, seen⟩
    | ok a =>
      have h' := answer.symm.trans h
      obtain ⟨goes_on, state⟩ := Action.bind_ok (f := f) h
      obtain ⟨goes_on', state'⟩ := Action.bind_ok (f := f) h'
      obtain ⟨kept, there, _⟩ := hx.stays s l fit
      obtain ⟨kept', _, _⟩ := hx.stays s' l fit'
      rw [goes_on, goes_on', state, state']
      rw [← there] at seen ⊢
      have rest := (hf a).alike (x (s, l)).state.1 (x (s', l)).state.1 (x (s, l)).state.2 kept kept' seen
      have arrival : (x (s', l)).state = ((x (s', l)).state.1, (x (s, l)).state.2) := by rw [place]
      rw [arrival]
      exact rest
  stays s l fit := by
    obtain ⟨kept, there, others⟩ := hx.stays s l fit
    cases h : (x (s, l)).answer with
    | error e =>
      rw [(Action.bind_error f h).2]
      exact ⟨kept, there, others⟩
    | ok a =>
      rw [(Action.bind_ok (f := f) h).2]
      obtain ⟨kept', there', others'⟩ := (hf a).stays _ (x (s, l)).state.2 kept
      refine ⟨kept', there'.trans there, fun key differs => ?_⟩
      rw [← others key differs]
      exact others' key (there ▸ differs)

theorem map (hx : Local v x) (f : α → β) : Local v (f <$> x) :=
  hx.bind fun a => pure (f a)

theorem zoom {v : Outlook σ C τ} {x : Action Fault (σ × C) α} (hx : Local v x) :
    Local (v.onLease (S := S)) (Action.zoom Lease.channelLens x) where
  alike s s' lease fit fit' same := by
    obtain ⟨answer, place, seen⟩ := hx.alike s s' lease.channel fit fit' same
    exact ⟨answer, congrArg (fun c => ({ lease with channel := c } : Lease S C)) place, seen⟩
  stays s lease fit := hx.stays s lease.channel fit

end Local

theorem Local.settings {v : Outlook σ C τ} {f : S → Action Fault (σ × Lease S C) α}
    (hf : ∀ s, Local v.onLease (f s)) :
    Local v.onLease (Action.get >>= fun p => f p.2.settings) where
  alike s s' lease := (hf lease.settings).alike s s' lease
  stays s lease := (hf lease.settings).stays s lease

/-- Opening a channel sees and changes nothing but what belongs to the key. -/
structure LocalClaims (v : Outlook σ C τ) (keyOf : S → UInt32) (claim : S → Action Fault σ C) :
    Prop where
  alike : ∀ c s s', v.fit s → v.fit s' → v.look s (keyOf c) = v.look s' (keyOf c) →
    (claim c s).answer = (claim c s').answer ∧
      v.look (claim c s).state (keyOf c) = v.look (claim c s').state (keyOf c)
  stays : ∀ c s, v.fit s → v.fit (claim c s).state ∧
    ∀ key, key ≠ keyOf c → v.look (claim c s).state key = v.look s key
  keyed : ∀ c s ch, v.fit s → (claim c s).answer = .ok ch → v.keyOf ch = keyOf c

/-- What a device does for a desk sees and changes nothing but what belongs to the key at work. -/
structure Device.Local (dev : Device σ S C) (v : Outlook σ C τ) : Prop where
  claims : LocalClaims v dev.trade.key dev.claim
  windUp : Peripherals.Local v.onLease dev.windUp

/-! ### Desks in which every channel is on the key of its lease -/

/-- The device is fit, and a lease on the key has a channel on the key. -/
def Outlook.Placed (v : Outlook σ C τ) : KeyProperty σ S C := fun key s l =>
  v.fit s ∧ ∀ lease, l = some lease → v.keyOf lease.channel = key

private theorem Local.keeps {v : Outlook σ C τ} {x : Action Fault (σ × Lease S C) α}
    (hx : Local v.onLease x) : Keeps v.Placed (fun _ => True) x fun _ _ => True := by
  rintro key ⟨s, lease⟩ ⟨fit, placed⟩ _
  obtain ⟨kept, there, _⟩ := hx.stays s lease fit
  refine ⟨⟨kept, fun lease' same => ?_⟩, fun other l _ was => ⟨kept, was.2⟩, fun _ _ => trivial⟩
  obtain rfl := Option.some.inj same
  exact there.trans (placed lease rfl)

theorem Desk.Tended.after_local {v : Outlook σ C τ} {d : Desk σ S C} (t : d.Tended v.Placed)
    {h : Handle} {key : UInt32} {lease : Lease S C}
    (live : d.leases.slots.get? h = some (key, lease)) {x : Action Fault (σ × Lease S C) α}
    (hx : Local v.onLease x) : (d.after h (x (d.device, lease)).state).Tended v.Placed := by
  obtain ⟨kept, others, _⟩ := hx.keeps key (d.device, lease) (t.live live) trivial
  exact t.after live kept others

private theorem Device.Local.tends {dev : Device σ S C} {v : Outlook σ C τ} (here : dev.Local v) :
    dev.Tends v.Placed fun _ => True where
  claim_others c s _ bare key l _ was := ⟨(here.claims.stays c s bare.1).1, was.2⟩
  claim_error c s f _ bare _ := ⟨(here.claims.stays c s bare.1).1, fun _ none => nomatch none⟩
  claim_ok c s ch _ bare claimed := by
    refine ⟨(here.claims.stays c s bare.1).1, fun lease same => ?_⟩
    obtain rfl := Option.some.inj same
    exact here.claims.keyed c s ch bare.1 claimed
  windUp_others key p placed other l _ was := ⟨(here.windUp.stays p.1 p.2 placed.1).1, was.2⟩
  windUp_error key p f placed _ := (here.windUp.keeps key p placed trivial).1
  windUp_ok key p placed _ :=
    ⟨(here.windUp.stays p.1 p.2 placed.1).1, fun _ none => nomatch none⟩

/-! ### Errands -/

namespace Errand

def redirect (ρ : Handle → Handle) : Errand σ S C A → Errand σ S C A
  | .request check s => .request check s
  | .release h => .release (ρ h)
  | .use h work => .use (ρ h) work
  | .look h view => .look (ρ h) view

/-- A request for the key, or an errand about a handle that was given out for it. -/
def Concerns (dev : Device σ S C) (key : UInt32) (mine : List Handle) (e : Errand σ S C A) : Prop :=
  e.key? dev = some key ∨ ∃ h ∈ mine, e.handle? = some h

/-- The work of the errand is local, and ends with no fault of the desk. -/
def Local (v : Outlook σ C τ) (e : Errand σ S C A) : Prop :=
  e.Aloof ∧ ∀ h work, e = .use h work → Peripherals.Local v.onLease work

end Errand

theorem Course.placed {dev : Device σ S C} {granted : Handle → A} {done : A} {d d' : Desk σ S C}
    {e : Errand σ S C A} {answer : Except Fault A} {v : Outlook σ C τ} (here : dev.Local v)
    (errand : e.Local v) (course : Course dev granted done d e answer d') (t : d.Tended v.Placed) :
    d'.Tended v.Placed :=
  t.step course here.tends (fun _ _ => trivial) fun h work use => (errand.2 h work use).keeps

/-! ### Twins -/

/-- As far as the key goes the desks are the same. The pairs are the handles that were given out for it,
at the one desk and at the other. -/
structure Twin (v : Outlook σ C τ) (key : UInt32) (pairs : List (Handle × Handle))
    (d d' : Desk σ S C) : Prop where
  tended : d.Tended v.Placed
  tended' : d'.Tended v.Placed
  seen : v.look d.device key = v.look d'.device key
  old : ∀ p ∈ pairs, p.1.number < d.counter ∧ p.2.number < d'.counter
  unique : ∀ p ∈ pairs, ∀ q ∈ pairs, p.1 = q.1 ↔ p.2 = q.2
  slots : ∀ p ∈ pairs, d'.leases.slots.get? p.2 = d.leases.slots.get? p.1
  keyed : ∀ p ∈ pairs, ∀ e, d.leases.slots.get? p.1 = some e → e.1 = key
  covered : ∀ h lease, d.leases.slots.get? h = some (key, lease) → ∃ h', (h, h') ∈ pairs
  covered' : ∀ h' lease, d'.leases.slots.get? h' = some (key, lease) → ∃ h, (h, h') ∈ pairs

namespace Twin

variable {v : Outlook σ C τ} {key : UInt32} {pairs : List (Handle × Handle)} {d d' : Desk σ S C}

theorem vacant {s : σ} (fit : v.fit s) (counter counter' : Nat) :
    Twin v key [] (Desk.vacant s counter : Desk σ S C) (Desk.vacant s counter') where
  tended := .vacant (fun _ => ⟨fit, fun _ none => nomatch none⟩) counter
  tended' := .vacant (fun _ => ⟨fit, fun _ none => nomatch none⟩) counter'
  seen := rfl
  old p member := nomatch member
  unique p member := nomatch member
  slots p member := nomatch member
  keyed p member := nomatch member
  covered h lease live := by
    rw [show (Desk.vacant s counter : Desk σ S C).leases.slots.get? h = none from Assoc.get?_empty h] at live
    cases live
  covered' h lease live := by
    rw [show (Desk.vacant s counter' : Desk σ S C).leases.slots.get? h = none from Assoc.get?_empty h] at live
    cases live

theorem symm (twin : Twin v key pairs d d') : Twin v key (pairs.map Prod.swap) d' d where
  tended := twin.tended'
  tended' := twin.tended
  seen := twin.seen.symm
  old := by
    simp only [List.forall_mem_map]
    exact fun p member => (twin.old p member).symm
  unique := by
    simp only [List.forall_mem_map]
    exact fun p member q member' => (twin.unique p member q member').symm
  slots := by
    simp only [List.forall_mem_map]
    exact fun p member => (twin.slots p member).symm
  keyed := by
    simp only [List.forall_mem_map]
    exact fun p member e live => twin.keyed p member e ((twin.slots p member).symm.trans live)
  covered h lease live := by
    obtain ⟨h', member⟩ := twin.covered' h lease live
    exact ⟨h', List.mem_map.mpr ⟨_, member, rfl⟩⟩
  covered' h lease live := by
    obtain ⟨h', member⟩ := twin.covered h lease live
    exact ⟨h', List.mem_map.mpr ⟨_, member, rfl⟩⟩

/-- The key has the same lease at both desks. -/
theorem on?_eq (twin : Twin v key pairs d d') : d'.leases.on? key = d.leases.on? key := by
  ext lease
  rw [twin.tended'.sound.on?_eq_some_iff, twin.tended.sound.on?_eq_some_iff]
  constructor
  · rintro ⟨h', live⟩
    obtain ⟨h, member⟩ := twin.covered' h' lease live
    exact ⟨h, (twin.slots _ member).symm.trans live⟩
  · rintro ⟨h, live⟩
    obtain ⟨h', member⟩ := twin.covered h lease live
    exact ⟨h', (twin.slots _ member).trans live⟩

theorem containsKey_eq (twin : Twin v key pairs d d') :
    d'.leases.containsKey key = d.leases.containsKey key := by
  have free_iff : d'.leases.containsKey key = false ↔ d.leases.containsKey key = false := by
    rw [← twin.tended'.sound.on?_eq_none_iff, ← twin.tended.sound.on?_eq_none_iff, twin.on?_eq]
  exact Bool.eq_iff_iff.mpr (by rw [← Bool.not_eq_false, ← Bool.not_eq_false, free_iff])

end Twin

end Peripherals

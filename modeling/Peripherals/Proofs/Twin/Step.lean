import Peripherals.Proofs.Twin.Basic
/-!
Errands at twins. What is done for another key at one of two twins leaves twins, and so does what is done
for their key at both, which is answered the same.
-/

set_option autoImplicit false

namespace Peripherals

variable {σ τ S C A α : Type}

/-! ### Replies with other numbers -/

def Fault.renumber (ρ : Handle → Handle) : Fault → Fault
  | .unknownHandle h => .unknownHandle (ρ h)
  | f => f

private theorem Fault.OfDevice.renumber_eq {f : Fault} (sort : f.OfDevice) (ρ : Handle → Handle) :
    f.renumber ρ = f := by
  cases f with
  | unknownHandle => exact sort.elim
  | _ => rfl

/-- A reply with its handles under other numbers; `r` puts them into an answer. -/
def renumberReply (ρ : Handle → Handle) (r : A → A) : Except Fault A → Except Fault A
  | .ok a => .ok (r a)
  | .error f => .error (f.renumber ρ)

private theorem renumberReply_eq {ρ : Handle → Handle} {r : A → A} {reply : Except Fault A}
    (plain : ∀ a, reply = .ok a → r a = a) (sort : ∀ f, reply = .error f → f.OfDevice) :
    renumberReply ρ r reply = reply := by
  cases reply with
  | ok a => exact congrArg Except.ok (plain a rfl)
  | error f => exact congrArg Except.error ((sort f rfl).renumber_eq ρ)

namespace Errand

/-- Of the answers to the errand only the grants have a handle in them. -/
def Plain (r : A → A) : Errand σ S C A → Prop
  | .use _ work => ∀ p a, (work p).answer = .ok a → r a = a
  | .look _ view => ∀ s, r (view s) = view s
  | .request _ _ | .release _ => True

theorem plain_map {h : Handle} {x : Action Fault (σ × Lease S C) α} {f : α → A} {r : A → A}
    (plain : ∀ b, r (f b) = f b) : (Errand.use h (f <$> x)).Plain r := by
  intro p a answer
  rw [Action.map_apply] at answer
  cases result : (x p).answer with
  | error e =>
    rw [result] at answer
    cases answer
  | ok b =>
    rw [result] at answer
    obtain rfl := Except.ok.inj answer
    exact plain b

theorem handle?_redirect (e : Errand σ S C A) (ρ : Handle → Handle) :
    (e.redirect ρ).handle? = e.handle?.map ρ := by
  cases e <;> rfl

private theorem Local.redirect {v : Outlook σ C τ} {e : Errand σ S C A} (errand : e.Local v)
    (ρ : Handle → Handle) : (e.redirect ρ).Local v := by
  cases e with
  | request check s => exact errand
  | release h | look h view => exact ⟨trivial, fun _ _ use => nomatch use⟩
  | use h work =>
    refine ⟨errand.1, fun h' work' use => ?_⟩
    obtain ⟨_, rfl⟩ := Errand.use.inj use
    exact errand.2 h work rfl

end Errand

namespace Twin

variable {v : Outlook σ C τ} {key : UInt32} {pairs : List (Handle × Handle)} {d d' d₁ d₁' : Desk σ S C}

/-! ### One desk -/

theorem elsewhere (twin : Twin v key pairs d d') (tended : d₁.Tended v.Placed)
    (seen : v.look d₁.device key = v.look d.device key) (later : d.counter ≤ d₁.counter)
    (slots : ∀ p ∈ pairs, d₁.leases.slots.get? p.1 = d.leases.slots.get? p.1)
    (none_new : ∀ h lease, d₁.leases.slots.get? h = some (key, lease) → ∃ p ∈ pairs, p.1 = h) :
    Twin v key pairs d₁ d' where
  tended
  tended' := twin.tended'
  seen := seen.trans twin.seen
  old p member := ⟨Nat.lt_of_lt_of_le (twin.old p member).1 later, (twin.old p member).2⟩
  unique := twin.unique
  slots p member := (twin.slots p member).trans (slots p member).symm
  keyed p member e live := twin.keyed p member e ((slots p member).symm.trans live)
  covered h lease live := by
    obtain ⟨p, member, rfl⟩ := none_new h lease live
    exact ⟨p.2, member⟩
  covered' := twin.covered'

variable {dev : Device σ S C} {granted : Handle → A} {done : A} {e : Errand σ S C A}
  {answer answer' : Except Fault A}

private theorem after_elsewhere (twin : Twin v key pairs d d') {h : Handle} {other : UInt32}
    {lease : Lease S C} (live : d.leases.slots.get? h = some (other, lease))
    (apart : ∀ p ∈ pairs, p.1 ≠ h) {x : Action Fault (σ × Lease S C) α}
    (stays : Local v.onLease x) : Twin v key pairs (d.after h (x (d.device, lease)).state) d' := by
  have placed : v.Placed other d.device (some lease) := twin.tended.live live
  have differs : other ≠ key := by
    rintro rfl
    obtain ⟨h', member⟩ := twin.covered h lease live
    exact apart _ member rfl
  have look := (stays.stays d.device lease placed.1).2.2 key fun same =>
    differs ((placed.2 lease rfl).symm.trans same.symm)
  refine twin.elsewhere (twin.tended.after_local live stays) look (Nat.le_refl _)
    (fun p member => ?_) fun h' lease' live' => ?_
  · exact (HandleTable.slots_set live _ p.1).trans (if_neg (apart p member))
  · have entry := (HandleTable.slots_set live _ h').symm.trans live'
    split at entry
    · exact absurd (Prod.mk.inj (Option.some.inj entry)).1 differs
    · obtain ⟨g, member⟩ := twin.covered h' lease' entry
      exact ⟨_, member, rfl⟩

private theorem strike_elsewhere (twin : Twin v key pairs d d') {h : Handle} {other : UInt32}
    (apart : ∀ p ∈ pairs, p.1 ≠ h) (tended : (d.strike h other).Tended v.Placed) :
    Twin v key pairs (d.strike h other) d' := by
  refine twin.elsewhere tended rfl (Nat.le_refl _) (fun p member => ?_) fun h' lease' live' => ?_
  · exact (HandleTable.slots_without _ _ p.1).trans (if_neg (apart p member))
  · have entry := (HandleTable.slots_without _ _ h').symm.trans live'
    split at entry
    · cases entry
    · obtain ⟨g, member⟩ := twin.covered h' lease' entry
      exact ⟨_, member, rfl⟩

/-- An errand that does not concern the key, carried out at one of two twins. -/
theorem skip (twin : Twin v key pairs d d') (here : dev.Local v) (errand : e.Local v)
    (apart : ¬ e.Concerns dev key (pairs.map Prod.fst))
    (course : Course dev granted done d e answer d₁) : Twin v key pairs d₁ d' := by
  have tended := course.placed here errand twin.tended
  have fit := (twin.tended.holds 0).1
  have free (h : Handle) (about : e.handle? = some h) : ∀ p ∈ pairs, p.1 ≠ h := by
    rintro p member rfl
    exact apart (.inr ⟨p.1, List.mem_map_of_mem member, about⟩)
  cases course with
  | barred | taken | unknown | looked => exact twin
  | @declined c f _ claim =>
    have differs : key ≠ dev.trade.key c := fun same => apart (.inl (congrArg some same.symm))
    refine twin.elsewhere tended ((here.claims.stays c d.device fit).2 key differs) (Nat.le_refl _)
      (fun _ _ => rfl) fun h lease live => ?_
    obtain ⟨h', member⟩ := twin.covered h lease live
    exact ⟨_, member, rfl⟩
  | @granted c ch _ claim =>
    have differs : key ≠ dev.trade.key c := fun same => apart (.inl (congrArg some same.symm))
    refine twin.elsewhere tended ((here.claims.stays c d.device fit).2 key differs) (Nat.le_succ _)
      (fun p member => ?_) fun h lease live => ?_
    · have older : p.1 ≠ ⟨d.counter⟩ := by
        intro same
        have below := (twin.old p member).1
        rw [same] at below
        exact Nat.lt_irrefl _ below
      exact (HandleTable.slots_entered _ _ _ p.1).trans (if_neg older)
    · have entry := (HandleTable.slots_entered _ _ _ h).symm.trans live
      split at entry
      · exact absurd (Prod.mk.inj (Option.some.inj entry)).1.symm differs
      · obtain ⟨h', member⟩ := twin.covered h lease entry
        exact ⟨_, member, rfl⟩
  | @used h other lease work live =>
    exact twin.after_elsewhere live (free h rfl) (errand.2 h work rfl)
  | @kept h other lease f live failed =>
    exact twin.after_elsewhere live (free h rfl) here.windUp
  | @released h other lease live closed =>
    exact (twin.after_elsewhere live (free h rfl) here.windUp).strike_elsewhere (free h rfl) tended

/-! ### Both desks -/

/-- Work on the lease of the key. -/
private theorem after_both (twin : Twin v key pairs d d') {h h' : Handle} (member : (h, h') ∈ pairs)
    {lease : Lease S C} (live : d.leases.slots.get? h = some (key, lease))
    {x : Action Fault (σ × Lease S C) α} (here : Local v.onLease x) :
    (x (d.device, lease)).answer = (x (d'.device, lease)).answer ∧
      Twin v key pairs (d.after h (x (d.device, lease)).state)
        (d'.after h' (x (d'.device, lease)).state) := by
  have live' : d'.leases.slots.get? h' = some (key, lease) := (twin.slots _ member).trans live
  have placed : v.Placed key d.device (some lease) := twin.tended.live live
  have placed' : v.Placed key d'.device (some lease) := twin.tended'.live live'
  have at_key : v.keyOf lease.channel = key := placed.2 lease rfl
  obtain ⟨answer, place, seen⟩ := here.alike d.device d'.device lease placed.1 placed'.1
    (at_key ▸ twin.seen)
  have slot (g : Handle) := HandleTable.slots_set live (x (d.device, lease)).state.2 g
  have slot' (g : Handle) := HandleTable.slots_set live' (x (d'.device, lease)).state.2 g
  refine ⟨answer, ⟨twin.tended.after_local live here, twin.tended'.after_local live' here, ?_, twin.old,
    twin.unique, fun p known => ?_, fun p known e live_after => ?_, fun g lease' live_after => ?_,
    fun g lease' live_after => ?_⟩⟩
  · exact at_key ▸ seen
  · refine (slot' p.2).trans (Eq.trans ?_ (slot p.1).symm)
    have same := twin.unique p known _ member
    by_cases this : p.1 = h
    · rw [if_pos this, if_pos (same.mp this), place]
    · rw [if_neg this, if_neg fun that => this (same.mpr that)]
      exact twin.slots p known
  · have entry := (slot p.1).symm.trans live_after
    split at entry
    · rw [← Option.some.inj entry]
    · exact twin.keyed p known e entry
  · have entry := (slot g).symm.trans live_after
    split at entry
    · next this => exact ⟨h', this ▸ member⟩
    · exact twin.covered g lease' entry
  · have entry := (slot' g).symm.trans live_after
    split at entry
    · next this => exact ⟨h, this ▸ member⟩
    · exact twin.covered' g lease' entry

private theorem strike_both (twin : Twin v key pairs d d') {h h' : Handle} (member : (h, h') ∈ pairs)
    (tended : (d.strike h key).Tended v.Placed) (tended' : (d'.strike h' key).Tended v.Placed) :
    Twin v key pairs (d.strike h key) (d'.strike h' key) := by
  have slot (g : Handle) := HandleTable.slots_without (t := d.leases) h key g
  have slot' (g : Handle) := HandleTable.slots_without (t := d'.leases) h' key g
  refine ⟨tended, tended', twin.seen, twin.old, twin.unique, fun p known => ?_,
    fun p known e live => ?_, fun g lease live => ?_, fun g lease live => ?_⟩
  · refine (slot' p.2).trans (Eq.trans ?_ (slot p.1).symm)
    have same := twin.unique p known _ member
    by_cases this : p.1 = h
    · rw [if_pos this, if_pos (same.mp this)]
    · rw [if_neg this, if_neg fun that => this (same.mpr that)]
      exact twin.slots p known
  · have entry := (slot p.1).symm.trans live
    split at entry
    · cases entry
    · exact twin.keyed p known e entry
  · have entry := (slot g).symm.trans live
    split at entry
    · cases entry
    · exact twin.covered g lease entry
  · have entry := (slot' g).symm.trans live
    split at entry
    · cases entry
    · exact twin.covered' g lease entry

/-- A new lease on the key. -/
private theorem lend_both (twin : Twin v key pairs d d') {s s' : σ} {lease : Lease S C}
    (seen : v.look s key = v.look s' key) (tended : (d.lend key s lease).Tended v.Placed)
    (tended' : (d'.lend key s' lease).Tended v.Placed) :
    Twin v key (pairs ++ [(⟨d.counter⟩, ⟨d'.counter⟩)]) (d.lend key s lease)
      (d'.lend key s' lease) := by
  have slot (g : Handle) := HandleTable.slots_entered (t := d.leases) ⟨d.counter⟩ key lease g
  have slot' (g : Handle) := HandleTable.slots_entered (t := d'.leases) ⟨d'.counter⟩ key lease g
  have older (p : Handle × Handle) (known : p ∈ pairs) : p.1 ≠ ⟨d.counter⟩ ∧ p.2 ≠ ⟨d'.counter⟩ := by
    obtain ⟨below, below'⟩ := twin.old p known
    constructor
    · intro same
      rw [same] at below
      exact Nat.lt_irrefl _ below
    · intro same
      rw [same] at below'
      exact Nat.lt_irrefl _ below'
  refine ⟨tended, tended', seen, fun p known => ?_, fun p known q known' => ?_, fun p known => ?_,
    fun p known e live => ?_, fun g lease' live => ?_, fun g lease' live => ?_⟩
  · rcases List.mem_append.mp known with before | now
    · exact ⟨Nat.lt_succ_of_lt (twin.old p before).1, Nat.lt_succ_of_lt (twin.old p before).2⟩
    · rw [List.mem_singleton.mp now]
      exact ⟨Nat.lt_succ_self _, Nat.lt_succ_self _⟩
  · rcases List.mem_append.mp known with before | now <;>
      rcases List.mem_append.mp known' with before' | now'
    · exact twin.unique p before q before'
    · rw [List.mem_singleton.mp now']
      exact iff_of_false (older p before).1 (older p before).2
    · rw [List.mem_singleton.mp now]
      exact iff_of_false (older q before').1.symm (older q before').2.symm
    · rw [List.mem_singleton.mp now, List.mem_singleton.mp now']
      exact iff_of_true rfl rfl
  · refine (slot' p.2).trans (Eq.trans ?_ (slot p.1).symm)
    rcases List.mem_append.mp known with before | now
    · rw [if_neg (older p before).1, if_neg (older p before).2]
      exact twin.slots p before
    · rw [List.mem_singleton.mp now, if_pos rfl, if_pos rfl]
  · have entry := (slot p.1).symm.trans live
    split at entry
    · rw [← Option.some.inj entry]
    · next other =>
      rcases List.mem_append.mp known with before | now
      · exact twin.keyed p before e entry
      · exact absurd (congrArg Prod.fst (List.mem_singleton.mp now)) other
  · have entry := (slot g).symm.trans live
    split at entry
    · next this =>
      rw [this]
      exact ⟨_, List.mem_append_right _ (List.mem_singleton_self _)⟩
    · obtain ⟨h', known⟩ := twin.covered g lease' entry
      exact ⟨h', List.mem_append_left _ known⟩
  · have entry := (slot' g).symm.trans live
    split at entry
    · next this =>
      rw [this]
      exact ⟨_, List.mem_append_right _ (List.mem_singleton_self _)⟩
    · obtain ⟨h, known⟩ := twin.covered' g lease' entry
      exact ⟨h, List.mem_append_left _ known⟩

/-- A request for the key at both twins. -/
private theorem request_both (twin : Twin v key pairs d d') (here : dev.Local v) (aloof : dev.Aloof)
    {check : Except Fault Unit} {s : S} (asks : dev.trade.key s = key)
    (checked : ∀ f, check = .error f → f.OfDevice)
    (course : Course dev granted done d (.request check s) answer d₁)
    (course' : Course dev granted done d' (.request check s) answer' d₁')
    (tended : d₁.Tended v.Placed) (tended' : d₁'.Tended v.Placed) (ρ : Handle → Handle) (r : A → A) :
    (answer = .ok (granted ⟨d.counter⟩) ∧ answer' = .ok (granted ⟨d'.counter⟩) ∧
        Twin v key (pairs ++ [(⟨d.counter⟩, ⟨d'.counter⟩)]) d₁ d₁') ∨
      ((∃ f, answer = .error f) ∧ answer' = renumberReply ρ r answer ∧ Twin v key pairs d₁ d₁') := by
  subst asks
  have known := twin.containsKey_eq
  cases check with
  | error f =>
    obtain ⟨rfl, rfl⟩ := course.of_barred
    obtain ⟨rfl, rfl⟩ := course'.of_barred
    exact .inr ⟨⟨_, rfl⟩, congrArg Except.error ((checked f rfl).renumber_eq ρ).symm, twin⟩
  | ok u =>
    cases taken : d.leases.containsKey (dev.trade.key s) with
    | true =>
      obtain ⟨rfl, rfl⟩ := course.of_taken taken
      obtain ⟨rfl, rfl⟩ := course'.of_taken (known.trans taken)
      exact .inr ⟨⟨_, rfl⟩, rfl, twin⟩
    | false =>
      obtain ⟨same, seen⟩ := here.claims.alike s d.device d'.device (twin.tended.holds 0).1
        (twin.tended'.holds 0).1 twin.seen
      obtain ⟨declines, grants⟩ := course'.of_free (known.trans taken)
      cases claim : (dev.claim s d.device).answer with
      | error f =>
        obtain ⟨rfl, rfl⟩ := (course.of_free taken).1 f claim
        obtain ⟨rfl, rfl⟩ := declines f (same.symm.trans claim)
        refine .inr ⟨⟨_, rfl⟩, ?_, ⟨tended, tended', seen, twin.old, twin.unique, twin.slots,
          twin.keyed, twin.covered, twin.covered'⟩⟩
        exact congrArg Except.error ((aloof.claim s d.device _ claim).renumber_eq ρ).symm
      | ok c =>
        obtain ⟨rfl, rfl⟩ := (course.of_free taken).2 c claim
        obtain ⟨rfl, rfl⟩ := grants c (same.symm.trans claim)
        exact .inl ⟨rfl, rfl, twin.lend_both seen tended tended'⟩

/-- An errand about a handle of the key at one twin, and about the handle that goes with it at the other. -/
private theorem handle_both (twin : Twin v key pairs d d') (here : dev.Local v) (aloof : dev.Aloof)
    (errand : e.Local v) {ρ : Handle → Handle} {h : Handle} (member : (h, ρ h) ∈ pairs) {r : A → A}
    (plain : e.Plain r) (finished : r done = done) (about : e.handle? = some h)
    (course : Course dev granted done d e answer d₁)
    (course' : Course dev granted done d' (e.redirect ρ) answer' d₁')
    (tended : d₁.Tended v.Placed) (tended' : d₁'.Tended v.Placed) :
    answer' = renumberReply ρ r answer ∧ Twin v key pairs d₁ d₁' := by
  have about' : (e.redirect ρ).handle? = some (ρ h) := by
    rw [e.handle?_redirect, about]
    rfl
  have slot : d'.leases.slots.get? (ρ h) = d.leases.slots.get? h := twin.slots _ member
  cases live : d.leases.slots.get? h with
  | none =>
    obtain ⟨rfl, rfl⟩ := course.of_dead about live
    obtain ⟨rfl, rfl⟩ := course'.of_dead about' (slot.trans live)
    exact ⟨rfl, twin⟩
  | some entry =>
    obtain ⟨other, lease⟩ := entry
    obtain rfl : other = key := twin.keyed _ member _ live
    have live' := slot.trans live
    cases e with
    | request check c => cases about
    | use g work =>
      obtain rfl := Option.some.inj about
      obtain ⟨rfl, rfl⟩ := course.of_used live
      obtain ⟨rfl, rfl⟩ := course'.of_used live'
      obtain ⟨same, after⟩ := twin.after_both member live (errand.2 g work rfl)
      refine ⟨?_, after⟩
      rw [renumberReply_eq (plain _) (errand.1 _), same]
    | look g view =>
      obtain rfl := Option.some.inj about
      obtain ⟨rfl, rfl⟩ := course.of_looked live
      obtain ⟨rfl, rfl⟩ := course'.of_looked live'
      exact ⟨congrArg Except.ok (plain _).symm, twin⟩
    | release g =>
      obtain rfl := Option.some.inj about
      obtain ⟨same, after⟩ := twin.after_both member live here.windUp
      rcases course.of_release live with ⟨f, failed, rfl, rfl⟩ | ⟨closed, rfl, rfl⟩
      · rcases course'.of_release live' with ⟨f', failed', rfl, rfl⟩ | ⟨closed', _, _⟩
        · rw [← same, failed] at failed'
          obtain rfl := Except.error.inj failed'
          have sort : f.OfDevice :=
            (aloof.rest.bind fun _ => aloof.close : Action.FailsOnly _ dev.windUp) _ f failed
          exact ⟨congrArg Except.error (sort.renumber_eq ρ).symm, after⟩
        · rw [← same, failed] at closed'
          cases closed'
      · rcases course'.of_release live' with ⟨f', failed', _, _⟩ | ⟨closed', rfl, rfl⟩
        · rw [← same, closed] at failed'
          cases failed'
        · exact ⟨congrArg Except.ok finished.symm, after.strike_both member tended tended'⟩

/-- An errand that concerns the key, carried out at both twins, with the handles of the one at the one and
those of the other at the other: either it grants a handle at both, or it grants none, and is answered
the same. -/
theorem step (twin : Twin v key pairs d d') (here : dev.Local v) (aloof : dev.Aloof)
    (errand : e.Local v) {ρ : Handle → Handle} (agree : ∀ p ∈ pairs, ρ p.1 = p.2) {r : A → A}
    (plain : e.Plain r) (finished : r done = done)
    (about : e.Concerns dev key (pairs.map Prod.fst))
    (course : Course dev granted done d e answer d₁)
    (course' : Course dev granted done d' (e.redirect ρ) answer' d₁') :
    (e.handle? = none ∧ answer = .ok (granted ⟨d.counter⟩) ∧
        answer' = .ok (granted ⟨d'.counter⟩) ∧
        Twin v key (pairs ++ [(⟨d.counter⟩, ⟨d'.counter⟩)]) d₁ d₁') ∨
      ((e.handle? = none → ∃ f, answer = .error f) ∧ answer' = renumberReply ρ r answer ∧
        Twin v key pairs d₁ d₁') := by
  have tended := course.placed here errand twin.tended
  have tended' := course'.placed here (errand.redirect ρ) twin.tended'
  rcases about with asked | ⟨h, known, about⟩
  · cases e with
    | request check s =>
      rcases twin.request_both here aloof (Option.some.inj asked) errand.1 course course' tended tended'
        ρ r with ⟨ok, ok', after⟩ | ⟨failed, same, after⟩
      · exact .inl ⟨rfl, ok, ok', after⟩
      · exact .inr ⟨fun _ => failed, same, after⟩
    | release h | use h work | look h view => cases asked
  · obtain ⟨p, member, rfl⟩ := List.mem_map.mp known
    have pair : (p.1, ρ p.1) ∈ pairs := by
      rw [agree p member]
      exact member
    refine .inr ⟨fun request => ?_, twin.handle_both here aloof errand pair plain finished about course
      course' tended tended'⟩
    rw [request] at about
    cases about

end Twin

end Peripherals

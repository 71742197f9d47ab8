import Peripherals.Proofs.Desk.Accounts
import Peripherals.Proofs.Desk.Tended
/-!
The end of a desk. Main statements: in whatever order the leases are dismissed, and whatever calls
fail, every open channel gets the calls that are due to it and no other channel gets any; and where
calls on channels of different keys do not matter to each other, all orders leave the same device.
-/

set_option autoImplicit false

namespace Peripherals

open Journal (IsOpen)

variable {σ τ S T V C A K α β : Type}

theorem Device.dismissAll_ok (dev : Device σ S C) (order : List (Handle × UInt32 × Lease S C))
    (s : σ) : (dev.dismissAll order s).answer = .ok () := by
  induction order generalizing s with
  | nil => rfl
  | cons e rest ih =>
    obtain ⟨h, key, lease⟩ := e
    have first : ((Action.beside lease (dev.dismiss h key) : Action Fault σ _) s).answer =
        .ok ((dev.dismiss h key (s, lease)).answer, (dev.dismiss h key (s, lease)).state.2) := rfl
    exact (Action.bind_ok (f := fun _ => dev.dismissAll rest) first).1.trans (ih _)

/-! ### The calls -/

/-- The calls take leave of the channels that were open: each gets the acts that are due to it, and no
other channel is called. -/
structure Journal.Farewell (due : Tag → List (Act T V)) (before calls : Journal T V) : Prop where
  each : ∀ tag, IsOpen before tag → (calls.filter fun c => c.tag = tag).map (·.act) = due tag
  no_other : ∀ c ∈ calls, IsOpen before c.tag

/-- A dismissal makes the calls that are due to the lease. -/
def Device.Parts (dev : Device (σ × Journal T V) S (Tagged C)) (acts : S → List (Act T V)) : Prop :=
  ∀ h key p lease, ∃ calls, (dev.dismiss h key (p, lease)).state.1.2 = p.2 ++ calls ∧
    calls.map (·.act) = acts lease.settings ∧ ∀ c ∈ calls, c.tag = lease.channel.tag

namespace Device.Parts

variable {dev : Device (σ × Journal T V) S (Tagged C)} {acts : S → List (Act T V)}

theorem of_still (o : dev.Observed) (still : ∀ p, (dev.rest p).state = p) :
    dev.Parts fun _ => [.close] := by
  intro h key p lease
  rw [dev.dismiss_state, still]
  obtain ⟨_, journal⟩ := o.close (p, lease)
  refine ⟨_, journal, rfl, fun c member => ?_⟩
  rw [List.mem_singleton.mp member]

private theorem filter_about {calls : Journal T V} {tag : Tag} (about : ∀ c ∈ calls, c.tag = tag)
    (tag' : Tag) :
    (calls.filter fun c => c.tag = tag') = if tag = tag' then calls else [] := by
  split
  · next same =>
    refine List.filter_eq_self.mpr fun c member => ?_
    rw [about c member, same]
    exact decide_eq_true rfl
  · next differs =>
    refine List.filter_eq_nil_iff.mpr fun c member => ?_
    rw [about c member]
    simpa using differs

private theorem dismissAll (parts : dev.Parts acts)
    (order : List (Handle × UInt32 × Lease S (Tagged C))) (p : σ × Journal T V)
    (tags : (order.map fun e => e.2.2.channel.tag).Nodup) :
    ∃ calls, (dev.dismissAll order p).state.2 = p.2 ++ calls ∧
      (∀ e ∈ order, (calls.filter fun c => c.tag = e.2.2.channel.tag).map (·.act) =
        acts e.2.2.settings) ∧
      ∀ c ∈ calls, ∃ e ∈ order, e.2.2.channel.tag = c.tag := by
  -- The device is generalised: a dismissal may fail and leave any state behind.
  induction order generalizing p with
  | nil =>
    refine ⟨[], (List.append_nil _).symm, ?_, ?_⟩
    · intro e member
      cases member
    · intro c member
      cases member
  | cons e rest ih =>
    obtain ⟨h, key, lease⟩ := e
    obtain ⟨fresh, tags⟩ := List.nodup_cons.mp tags
    obtain ⟨first, journal, due, about⟩ := parts h key p lease
    obtain ⟨later, journal', due', about'⟩ := ih (dev.dismiss h key (p, lease)).state.1 tags
    have apart : ∀ c ∈ later, c.tag ≠ lease.channel.tag := by
      intro c member same
      obtain ⟨e, member', tag⟩ := about' c member
      exact fresh (List.mem_map.mpr ⟨e, member', tag.trans same⟩)
    rw [dev.dismissAll_cons, journal', journal, List.append_assoc]
    refine ⟨first ++ later, rfl, fun e member => ?_, fun c member => ?_⟩
    · rw [List.filter_append, filter_about about]
      rcases List.mem_cons.mp member with rfl | member
      · rw [if_pos rfl, List.filter_eq_nil_iff.mpr, List.append_nil, due]
        intro c later_call
        simpa using apart c later_call
      · rw [if_neg, List.nil_append, due' e member]
        intro same
        exact fresh (List.mem_map.mpr ⟨e, member, same.symm⟩)
    · rcases List.mem_append.mp member with now | after
      · exact ⟨_, List.mem_cons_self, (about c now).symm⟩
      · obtain ⟨e, member', tag⟩ := about' c after
        exact ⟨e, List.mem_cons_of_mem _ member', tag⟩

end Device.Parts

/-- At a desk whose accounts are right the leases are dismissed with the calls due to its channels. -/
theorem Desk.Accounted.farewell {d : Desk (σ × Journal T V) S (Tagged C)} (a : d.Accounted)
    {dev : Device (σ × Journal T V) S (Tagged C)} {acts : S → List (Act T V)} (parts : dev.Parts acts)
    {due : Tag → List (Act T V)}
    (owed : ∀ h key lease, d.leases.slots.get? h = some (key, lease) →
      due lease.channel.tag = acts lease.settings)
    {order : List (Handle × UInt32 × Lease S (Tagged C))} (perm : order.Perm d.leases.entries) :
    ∃ calls, (dev.dismissAll order d.device).state.2 = d.device.2 ++ calls ∧
      Journal.Farewell due d.device.2 calls := by
  have live (e : Handle × UInt32 × Lease S (Tagged C)) (member : e ∈ order) :
      d.leases.slots.get? e.1 = some e.2 :=
    a.sound.slots_of_mem_entries (perm.mem_iff.mp member)
  have keys : (order.map fun e => e.2.2.channel.tag.key).Nodup := by
    have same : (order.map fun e => e.2.2.channel.tag.key) = order.map fun e => e.2.1 :=
      List.map_congr_left fun e member => (a.held e.1 e.2.1 e.2.2 (live e member)).1
    rw [same]
    exact (perm.map _).nodup_iff.mpr a.sound.nodup_entries_keys
  have tags : (order.map fun e => e.2.2.channel.tag).Nodup := by
    refine List.Nodup.of_map Tag.key ?_
    rw [List.map_map]
    exact keys
  obtain ⟨calls, journal, each, about⟩ := parts.dismissAll order d.device tags
  refine ⟨calls, journal, fun tag hopen => ?_, fun c member => ?_⟩
  · obtain ⟨h, key, lease, slot, rfl⟩ := a.handed tag hopen
    rw [owed h key lease slot]
    exact each (h, key, lease) (perm.mem_iff.mpr (a.sound.mem_entries_iff.mpr slot))
  · obtain ⟨e, member', tag⟩ := about c member
    rw [← tag]
    exact (a.held e.1 e.2.1 e.2.2 (live e member')).2

/-! ### The order -/

/-- One call after the other, whether they succeed or fail. -/
def sweep (calls : List (Action Fault (σ × C) Unit)) (p : σ × C) : σ × C :=
  calls.foldl (fun p x => (x p).state) p

/-- A dismissal makes these calls on its channel. -/
def Device.Sweeps (dev : Device σ S C) (calls : S → List (Action Fault (σ × C) Unit)) : Prop :=
  ∀ h key s lease, (dev.dismiss h key (s, lease)).state.1 =
    (sweep (calls lease.settings) (s, lease.channel)).1

/-- Calls on channels of different keys do not matter to each other, as far as the device is looked
at: what a call makes of its channel does not depend on the other call, and what the two make of the
device does not depend on which comes first. -/
structure Independent (look : σ → τ) (keyOf : C → UInt32) (calls : List (Action Fault (σ × C) Unit)) :
    Prop where
  stays : ∀ x ∈ calls, ∀ p, keyOf (x p).state.2 = keyOf p.2
  seen : ∀ x ∈ calls, ∀ s s' c, look s = look s' →
    (x (s, c)).state.2 = (x (s', c)).state.2 ∧ look (x (s, c)).state.1 = look (x (s', c)).state.1
  channel : ∀ x ∈ calls, ∀ y ∈ calls, ∀ s c c', keyOf c ≠ keyOf c' →
    (x ((y (s, c')).state.1, c)).state.2 = (x (s, c)).state.2
  device : ∀ x ∈ calls, ∀ y ∈ calls, ∀ s c c', keyOf c ≠ keyOf c' →
    look (x ((y (s, c')).state.1, c)).state.1 = look (y ((x (s, c)).state.1, c')).state.1

namespace Independent

variable {look : σ → τ} {keyOf : C → UInt32} {calls xs ys : List (Action Fault (σ × C) Unit)}

private theorem sweep_seen (i : Independent look keyOf calls) (within : ∀ x ∈ xs, x ∈ calls) {s s' : σ}
    (same : look s = look s') (c : C) :
    (sweep xs (s, c)).2 = (sweep xs (s', c)).2 ∧
      look (sweep xs (s, c)).1 = look (sweep xs (s', c)).1 := by
  induction xs generalizing s s' c with
  | nil => exact ⟨rfl, same⟩
  | cons x xs ih =>
    obtain ⟨channel, device⟩ := i.seen x (within x List.mem_cons_self) s s' c same
    have later := ih (fun y member => within y (List.mem_cons_of_mem _ member)) device
      (x (s, c)).state.2
    rw [show sweep (x :: xs) (s', c) = sweep xs ((x (s', c)).state.1, (x (s', c)).state.2) from rfl,
      ← channel]
    exact later

private theorem sweep_past (i : Independent look keyOf calls) (within : ∀ x ∈ xs, x ∈ calls)
    {y : Action Fault (σ × C) Unit} (other : y ∈ calls) (s : σ) {c c' : C}
    (differs : keyOf c ≠ keyOf c') :
    (sweep xs ((y (s, c')).state.1, c)).2 = (sweep xs (s, c)).2 ∧
      look (sweep xs ((y (s, c')).state.1, c)).1 = look (y ((sweep xs (s, c)).1, c')).state.1 ∧
      (y ((sweep xs (s, c)).1, c')).state.2 = (y (s, c')).state.2 := by
  induction xs generalizing s c with
  | nil => exact ⟨rfl, rfl, rfl⟩
  | cons x xs ih =>
    have first := within x List.mem_cons_self
    have rest : ∀ z ∈ xs, z ∈ calls := fun z member => within z (List.mem_cons_of_mem _ member)
    have differs' : keyOf (x (s, c)).state.2 ≠ keyOf c' := by
      rw [i.stays x first (s, c)]
      exact differs
    have channel := i.channel x first y other s c c' differs
    have device := i.device x first y other s c c' differs
    obtain ⟨channel', device'⟩ := i.sweep_seen rest device (x (s, c)).state.2
    obtain ⟨channel'', device'', other'⟩ := ih rest (x (s, c)).state.1 differs'
    have head (t : σ) : sweep (x :: xs) (t, c) =
        sweep xs ((x (t, c)).state.1, (x (t, c)).state.2) := rfl
    rw [head, head, channel]
    refine ⟨channel'.trans channel'', device'.trans device'', other'.trans ?_⟩
    exact i.channel y other x first s c' c differs.symm

private theorem sweep_comm (i : Independent look keyOf calls) (within : ∀ x ∈ xs, x ∈ calls)
    (within' : ∀ y ∈ ys, y ∈ calls) (s : σ) {c c' : C} (differs : keyOf c ≠ keyOf c') :
    look (sweep xs ((sweep ys (s, c')).1, c)).1 = look (sweep ys ((sweep xs (s, c)).1, c')).1 := by
  induction ys generalizing s c' with
  | nil => rfl
  | cons y ys ih =>
    have first := within' y List.mem_cons_self
    have rest : ∀ z ∈ ys, z ∈ calls := fun z member => within' z (List.mem_cons_of_mem _ member)
    have differs' : keyOf c ≠ keyOf (y (s, c')).state.2 := by
      rw [i.stays y first (s, c')]
      exact differs
    obtain ⟨_, device, channel⟩ := i.sweep_past within first s differs
    have head (t : σ) : sweep (y :: ys) (t, c') =
        sweep ys ((y (t, c')).state.1, (y (t, c')).state.2) := rfl
    rw [head, head, channel]
    calc look (sweep xs ((sweep ys ((y (s, c')).state.1, (y (s, c')).state.2)).1, c)).1
        = look (sweep ys ((sweep xs ((y (s, c')).state.1, c)).1, (y (s, c')).state.2)).1 :=
          ih rest _ differs'
      _ = look (sweep ys ((y ((sweep xs (s, c)).1, c')).state.1, (y (s, c')).state.2)).1 :=
          (i.sweep_seen rest device _).2

/-- Calls that change what is seen of their own key, by nothing but what was seen of it. -/
theorem of_local {look : σ → UInt32 → β} {calls : List (Action Fault (σ × UInt32) Unit)}
    (own : ∀ x ∈ calls, ∃ g : β → β, ∀ s key, (x (s, key)).state.2 = key ∧
      ∀ j, look (x (s, key)).state.1 j = if j = key then g (look s key) else look s j) :
    Independent look id calls where
  stays x member p := by
    obtain ⟨g, effect⟩ := own x member
    exact (effect p.1 p.2).1
  seen x member s s' key same := by
    obtain ⟨g, effect⟩ := own x member
    refine ⟨(effect s key).1.trans (effect s' key).1.symm, ?_⟩
    funext j
    rw [(effect s key).2, (effect s' key).2, same]
  channel x member _ _ s key _ _ := by
    obtain ⟨g, effect⟩ := own x member
    exact (effect _ key).1.trans (effect s key).1.symm
  device x member y member' s key key' differs := by
    obtain ⟨g, effect⟩ := own x member
    obtain ⟨g', effect'⟩ := own y member'
    have differs : key ≠ key' := differs
    funext j
    rw [(effect (y (s, key')).state.1 key).2 j, (effect' s key').2 key, (effect' s key').2 j,
      (effect' (x (s, key)).state.1 key').2 j, (effect s key).2 key', (effect s key).2 j,
      if_neg differs, if_neg differs.symm]
    by_cases here : j = key
    · have elsewhere : j ≠ key' := fun there => differs (here.symm.trans there)
      rw [if_pos here, if_neg elsewhere, if_pos here]
    · rw [if_neg here, if_neg here]

variable {dev : Device σ S C} {made : S → List (Action Fault (σ × C) Unit)}

private theorem dismissAll_seen (i : Independent look keyOf calls) (sweeps : dev.Sweeps made)
    (within : ∀ a, ∀ x ∈ made a, x ∈ calls) (order : List (Handle × UInt32 × Lease S C)) {s s' : σ}
    (same : look s = look s') :
    look (dev.dismissAll order s).state = look (dev.dismissAll order s').state := by
  induction order generalizing s s' with
  | nil => exact same
  | cons e rest ih =>
    obtain ⟨h, key, lease⟩ := e
    rw [dev.dismissAll_cons, dev.dismissAll_cons]
    refine ih ?_
    rw [sweeps, sweeps]
    exact (i.sweep_seen (within _) same _).2

/-- The leases may be dismissed in any order. -/
theorem dismissAll_perm (i : Independent look keyOf calls) (sweeps : dev.Sweeps made)
    (within : ∀ a, ∀ x ∈ made a, x ∈ calls) {order order' : List (Handle × UInt32 × Lease S C)}
    (perm : order.Perm order') (keys : (order.map fun e => keyOf e.2.2.channel).Nodup) (s : σ) :
    look (dev.dismissAll order s).state = look (dev.dismissAll order' s).state := by
  induction perm generalizing s with
  | nil => rfl
  | cons e perm ih =>
    obtain ⟨h, key, lease⟩ := e
    rw [dev.dismissAll_cons, dev.dismissAll_cons]
    exact ih (List.nodup_cons.mp keys).2 _
  | swap e e' rest =>
    obtain ⟨h, key, lease⟩ := e
    obtain ⟨h', key', lease'⟩ := e'
    have differs : keyOf lease.channel ≠ keyOf lease'.channel := by
      intro same
      exact (List.nodup_cons.mp keys).1 (List.mem_cons.mpr (.inl same.symm))
    rw [dev.dismissAll_cons, dev.dismissAll_cons, dev.dismissAll_cons, dev.dismissAll_cons]
    refine i.dismissAll_seen sweeps within rest ?_
    rw [sweeps, sweeps, sweeps, sweeps]
    exact i.sweep_comm (within _) (within _) s differs
  | trans perm perm' ih ih' =>
    exact (ih keys s).trans (ih' ((perm.map _).nodup_iff.mp keys) s)

end Independent

/-! ### Channels on their keys -/

/-- The channel of a lease has the key of the lease. -/
def Rooted (keyOf : C → UInt32) : KeyProperty σ S C :=
  fun key _ l => ∀ lease, l = some lease → keyOf lease.channel = key

/-- Work that leaves the channel on its key. -/
def Steady (keyOf : C → UInt32) (x : Action Fault (σ × Lease S C) α) : Prop :=
  ∀ p, keyOf (x p).state.2.channel = keyOf p.2.channel

namespace Steady

variable {keyOf : C → UInt32} {x : Action Fault (σ × Lease S C) α}

theorem pure (a : α) : Steady keyOf (Pure.pure a : Action Fault (σ × Lease S C) α) :=
  fun _ => rfl

theorem bind {f : α → Action Fault (σ × Lease S C) β} (hx : Steady keyOf x)
    (hf : ∀ a, Steady keyOf (f a)) : Steady keyOf (x >>= f) := by
  intro p
  rw [Action.bind_apply]
  cases (x p).answer with
  | error e => exact hx p
  | ok a => exact (hf a (x p).state).trans (hx p)

theorem map (hx : Steady keyOf x) (f : α → β) : Steady keyOf (f <$> x) :=
  hx.bind fun _ => .pure _

theorem zoom {y : Action Fault (σ × C) α} (hy : ∀ p, keyOf (y p).state.2 = keyOf p.2) :
    Steady (S := S) keyOf (Action.zoom Lease.channelLens y) :=
  fun p => hy (p.1, p.2.channel)

theorem keeps (hx : Steady keyOf x) : Keeps (Rooted keyOf) (fun _ => True) x fun _ _ => True := by
  intro key p rooted _
  refine ⟨fun lease same => ?_, fun _ _ _ was => was, fun _ _ => trivial⟩
  obtain rfl := Option.some.inj same
  exact (hx p).trans (rooted _ rfl)

end Steady

theorem Device.tends_rooted {dev : Device σ S C} {keyOf : C → UInt32}
    (claim : ∀ a s c, (dev.claim a s).answer = .ok c → keyOf c = dev.trade.key a)
    (rest : Steady keyOf dev.rest) (close : Steady keyOf dev.close) :
    dev.Tends (Rooted keyOf) fun _ => True where
  claim_others _ _ _ _ _ _ _ was := was
  claim_error _ _ _ _ _ _ _ none := nomatch none
  claim_ok a s c _ _ claimed lease same := by
    obtain rfl := Option.some.inj same
    exact claim a s c claimed
  windUp_others _ _ _ _ _ _ was := was
  windUp_error _ p _ rooted _ lease same := by
    obtain rfl := Option.some.inj same
    exact (rest.bind (fun _ => close) p).trans (rooted _ rfl)
  windUp_ok _ _ _ _ _ none := nomatch none

theorem Desk.Tended.rooted_keys {d : Desk σ S C} {keyOf : C → UInt32}
    (t : d.Tended (Rooted keyOf)) {order : List (Handle × UInt32 × Lease S C)}
    (perm : order.Perm d.leases.entries) : (order.map fun e => keyOf e.2.2.channel).Nodup := by
  have same : (order.map fun e => keyOf e.2.2.channel) = order.map fun e => e.2.1 := by
    refine List.map_congr_left fun e member => ?_
    exact t.live (t.sound.slots_of_mem_entries (perm.mem_iff.mp member)) _ rfl
  rw [same]
  exact (perm.map _).nodup_iff.mpr t.sound.nodup_entries_keys

end Peripherals

import Peripherals.Proofs.Journal.Basic
/-!
The accounts of a desk: its leases beside the journal of its device. Main statement: at a desk whose
accounts are right, every errand leaves them right.
-/

set_option autoImplicit false

namespace Peripherals

open Journal (IsOpen Passing SilentAfterClose openings closings)

variable {σ S T V C A α β : Type}

/-! ### Calls of the work on a lease -/

/-- Work that makes only passing calls, about its own channel. -/
def KeepsOpen (x : Action Fault ((σ × Journal T V) × Lease S (Tagged C)) α) : Prop :=
  ∀ p, (x p).state.2.channel.tag = p.2.channel.tag ∧
    ∃ calls, (x p).state.1.2 = p.1.2 ++ calls ∧ Passing p.2.channel.tag calls

namespace KeepsOpen

variable {x : Action Fault ((σ × Journal T V) × Lease S (Tagged C)) α}

theorem of_still (still : ∀ p, (x p).state.1 = p.1 ∧ (x p).state.2.channel = p.2.channel) :
    KeepsOpen x := by
  intro p
  obtain ⟨device, channel⟩ := still p
  refine ⟨by rw [channel], [], ?_, fun c member => nomatch member⟩
  rw [device, List.append_nil]

theorem bind {f : α → Action Fault ((σ × Journal T V) × Lease S (Tagged C)) β}
    (hx : KeepsOpen x) (hf : ∀ a, KeepsOpen (f a)) : KeepsOpen (x >>= f) := by
  intro p
  obtain ⟨tag, calls, journal, passing⟩ := hx p
  rw [Action.bind_apply]
  cases h : (x p).answer with
  | error e => exact ⟨tag, calls, journal, passing⟩
  | ok a =>
    obtain ⟨tag', calls', journal', passing'⟩ := hf a (x p).state
    refine ⟨tag'.trans tag, calls ++ calls', ?_, ?_⟩
    · rw [journal', journal, List.append_assoc]
    · rw [tag] at passing'
      intro c member
      rcases List.mem_append.mp member with first | second
      · exact passing c first
      · exact passing' c second

theorem map (hx : KeepsOpen x) (f : α → β) : KeepsOpen (f <$> x) :=
  hx.bind fun _ => of_still fun _ => ⟨rfl, rfl⟩

theorem calling (verb : V) (y : Action Fault (σ × C) α) :
    KeepsOpen (S := S) (Action.zoom Lease.channelLens
      (Journal.calling (.use verb) y : Action Fault ((σ × Journal T V) × Tagged C) α)) := by
  intro p
  refine ⟨rfl, [⟨p.2.channel.tag, .use verb, (y (p.1.1, p.2.channel.channel)).answer.isOk⟩], rfl, ?_⟩
  intro c member
  rw [List.mem_singleton.mp member]
  exact ⟨rfl, rfl, rfl⟩

end KeepsOpen

/-- A device all calls to which are written down. -/
structure Device.Observed (dev : Device (σ × Journal T V) S (Tagged C)) : Prop where
  claim : ∀ s p, ∃ asked, (dev.claim s p).state.2 =
    p.2 ++ [⟨⟨p.2.length, dev.trade.key s⟩, .claim asked, (dev.claim s p).answer.isOk⟩]
  claim_tag : ∀ s p c, (dev.claim s p).answer = .ok c → c.tag = ⟨p.2.length, dev.trade.key s⟩
  rest : KeepsOpen dev.rest
  close : ∀ p, (dev.close p).state.2.channel.tag = p.2.channel.tag ∧
    (dev.close p).state.1.2 = p.1.2 ++ [⟨p.2.channel.tag, .close, (dev.close p).answer.isOk⟩]

namespace Device.Observed

variable {dev : Device (σ × Journal T V) S (Tagged C)}

theorem windUp_error (o : dev.Observed) {p : (σ × Journal T V) × Lease S (Tagged C)} {f : Fault}
    (failed : (dev.windUp p).answer = .error f) :
    (dev.windUp p).state.2.channel.tag = p.2.channel.tag ∧
      ∃ calls, (dev.windUp p).state.1.2 = p.1.2 ++ calls ∧ Passing p.2.channel.tag calls := by
  obtain ⟨tag, calls, journal, passing⟩ := o.rest p
  cases h : (dev.rest p).answer with
  | error e =>
    obtain ⟨_, state⟩ := (dev.windUp_apply p).1 e h
    rw [state]
    exact ⟨tag, calls, journal, passing⟩
  | ok u =>
    obtain ⟨answer, state⟩ := (dev.windUp_apply p).2 h
    obtain ⟨tag', journal'⟩ := o.close (dev.rest p).state
    rw [answer] at failed
    rw [state, journal', journal, failed, List.append_assoc]
    refine ⟨tag'.trans tag, _, rfl, ?_⟩
    intro c member
    rcases List.mem_append.mp member with first | last
    · exact passing c first
    · rw [List.mem_singleton.mp last]
      exact ⟨tag, rfl, rfl⟩

theorem windUp_ok (o : dev.Observed) {p : (σ × Journal T V) × Lease S (Tagged C)}
    (closed : (dev.windUp p).answer = .ok ()) :
    (dev.windUp p).state.2.channel.tag = p.2.channel.tag ∧
      ∃ calls, (dev.windUp p).state.1.2 = p.1.2 ++ calls ++ [⟨p.2.channel.tag, .close, true⟩] ∧
        Passing p.2.channel.tag calls := by
  obtain ⟨tag, calls, journal, passing⟩ := o.rest p
  cases h : (dev.rest p).answer with
  | error e =>
    obtain ⟨answer, _⟩ := (dev.windUp_apply p).1 e h
    rw [answer] at closed
    cases closed
  | ok u =>
    obtain ⟨answer, state⟩ := (dev.windUp_apply p).2 h
    obtain ⟨tag', journal'⟩ := o.close (dev.rest p).state
    rw [answer] at closed
    rw [state, journal', journal, closed, tag]
    exact ⟨tag'.trans tag, calls, rfl, passing⟩

end Device.Observed

/-! ### Accounts -/

namespace Desk

/-- The leases of a desk are its open channels, one for each key. -/
structure Accounted (d : Desk (σ × Journal T V) S (Tagged C)) : Prop where
  sound : d.leases.Sound d.counter
  held : ∀ h key lease, d.leases.slots.get? h = some (key, lease) →
    lease.channel.tag.key = key ∧ IsOpen d.device.2 lease.channel.tag
  handed : ∀ tag, IsOpen d.device.2 tag →
    ∃ h key lease, d.leases.slots.get? h = some (key, lease) ∧ lease.channel.tag = tag
  count : d.activeCount + closings d.device.2 = openings d.device.2
  dated : ∀ c ∈ d.device.2, c.tag.serial < d.device.2.length
  silent : SilentAfterClose d.device.2

theorem accounted_vacant (s : σ) (counter : Nat) :
    (vacant (s, []) counter : Desk (σ × Journal T V) S (Tagged C)).Accounted where
  sound := HandleTable.sound_empty counter
  held h key lease live := nomatch (live : (none : Option (UInt32 × Lease S (Tagged C))) = _)
  handed tag hopen := by
    obtain ⟨⟨c, member, _⟩, _⟩ := hopen
    cases member
  count := rfl
  dated c member := nomatch member
  silent := List.Pairwise.nil

namespace Accounted

variable {d : Desk (σ × Journal T V) S (Tagged C)}

theorem one_channel (a : d.Accounted) {tag tag' : Tag} (hopen : IsOpen d.device.2 tag)
    (hopen' : IsOpen d.device.2 tag') (same : tag.key = tag'.key) : tag = tag' := by
  obtain ⟨h, key, lease, live, rfl⟩ := a.handed tag hopen
  obtain ⟨h', key', lease', live', rfl⟩ := a.handed tag' hopen'
  have keys : key = key' := by
    rw [← (a.held h key lease live).1, same, (a.held h' key' lease' live').1]
  subst keys
  have handles := a.sound.handle_unique live live'
  subst handles
  have leases : lease = lease' := by
    rw [live] at live'
    exact (Prod.mk.inj (Option.some.inj live')).2
  rw [leases]

private theorem serial_lt (a : d.Accounted) {tag : Tag} (hopen : IsOpen d.device.2 tag) :
    tag.serial < d.device.2.length := by
  obtain ⟨⟨c, member, rfl, _⟩, _⟩ := hopen
  exact a.dated c member

/-- Calls about open channels, or about one that was not there before, may follow. -/
private theorem extend (a : d.Accounted) (calls : Journal T V) (silent : SilentAfterClose calls)
    (about : ∀ c ∈ calls, IsOpen d.device.2 c.tag ∨ c.tag.serial = d.device.2.length) :
    (∀ c ∈ d.device.2 ++ calls, c.tag.serial < (d.device.2 ++ calls).length) ∧
      SilentAfterClose (d.device.2 ++ calls) := by
  constructor
  · intro c member
    rw [List.length_append]
    rcases List.mem_append.mp member with old | new
    · have := a.dated c old
      omega
    · have := List.length_pos_of_mem new
      rcases about c new with hopen | fresh
      · have := a.serial_lt hopen
        omega
      · omega
  · refine a.silent.append silent fun c new c' old same => ?_
    rcases about c new with hopen | fresh
    · exact hopen.2 c' old same
    · have := a.dated c' old
      rw [same, fresh] at this
      exact absurd this (Nat.lt_irrefl _)

/-- Passing calls about a leased channel. -/
theorem after (a : d.Accounted) {h : Handle} {key : UInt32} {lease : Lease S (Tagged C)}
    (live : d.leases.slots.get? h = some (key, lease)) {p : (σ × Journal T V) × Lease S (Tagged C)}
    (tag : p.2.channel.tag = lease.channel.tag) {calls : Journal T V}
    (journal : p.1.2 = d.device.2 ++ calls) (passing : Passing lease.channel.tag calls) :
    (d.after h p).Accounted := by
  obtain ⟨keyed, hopen⟩ := a.held h key lease live
  have device : (d.after h p).device.2 = d.device.2 ++ calls := journal
  have slots := HandleTable.slots_set live p.2
  obtain ⟨dated, silent⟩ := a.extend _ (Journal.silentAfterClose_passing passing) fun c member => by
    rw [(passing c member).1]
    exact .inl hopen
  constructor
  · exact a.sound.set live _
  · intro h' key' lease' live'
    rw [device, Journal.isOpen_append_passing passing]
    change (d.leases.set h p.2).slots.get? h' = some (key', lease') at live'
    rw [slots] at live'
    split at live'
    · obtain ⟨rfl, rfl⟩ := Prod.mk.inj (Option.some.inj live')
      rw [tag]
      exact ⟨keyed, hopen⟩
    · exact a.held h' key' lease' live'
  · intro tag' hopen'
    rw [device, Journal.isOpen_append_passing passing] at hopen'
    obtain ⟨h', key', lease', live', about⟩ := a.handed tag' hopen'
    by_cases same : h' = h
    · subst same
      rw [live] at live'
      obtain ⟨rfl, rfl⟩ := Prod.mk.inj (Option.some.inj live')
      refine ⟨h', key, p.2, ?_, tag.trans about⟩
      change (d.leases.set h' p.2).slots.get? h' = _
      rw [slots, if_pos rfl]
    · refine ⟨h', key', lease', ?_, about⟩
      change (d.leases.set h p.2).slots.get? h' = _
      rw [slots, if_neg same]
      exact live'
  · have size : (d.after h p).activeCount = d.activeCount := a.sound.size_set live _
    have count := a.count
    rw [device, size, Journal.openings_append, Journal.closings_append,
      Journal.openings_passing passing, Journal.closings_passing passing]
    omega
  · rw [device]
    exact dated
  · rw [device]
    exact silent

/-- A call that closes a leased channel, whose lease is struck off. -/
theorem strike (a : d.Accounted) {h : Handle} {key : UInt32} {lease : Lease S (Tagged C)}
    (live : d.leases.slots.get? h = some (key, lease)) {device : σ × Journal T V}
    (journal : device.2 = d.device.2 ++ [⟨lease.channel.tag, .close, true⟩]) :
    (({ d with device := device } : Desk _ _ _).strike h key).Accounted := by
  obtain ⟨keyed, hopen⟩ := a.held h key lease live
  have slots := HandleTable.slots_without (t := d.leases) h key
  have reopen (t : Tag) : IsOpen device.2 t ↔ IsOpen d.device.2 t ∧ t ≠ lease.channel.tag := by
    rw [journal]
    exact Journal.isOpen_append_closing rfl
  obtain ⟨dated, silent⟩ := a.extend [⟨lease.channel.tag, .close, true⟩]
    (List.pairwise_singleton _ _) fun c member => by
    rw [List.mem_singleton.mp member]
    exact .inl hopen
  rw [← journal] at dated silent
  constructor
  · exact a.sound.without live
  · intro h' key' lease' live'
    change (d.leases.without h key).slots.get? h' = some (key', lease') at live'
    rw [slots] at live'
    split at live'
    · cases live'
    · next differs =>
      obtain ⟨keyed', hopen'⟩ := a.held h' key' lease' live'
      refine ⟨keyed', (reopen _).mpr ⟨hopen', fun same => differs ?_⟩⟩
      have keys : key' = key := by rw [← keyed', same, keyed]
      subst keys
      exact a.sound.handle_unique live' live
  · intro tag' hopen'
    obtain ⟨was, differs⟩ := (reopen tag').mp hopen'
    obtain ⟨h', key', lease', live', about⟩ := a.handed tag' was
    refine ⟨h', key', lease', ?_, about⟩
    change (d.leases.without h key).slots.get? h' = _
    have other : h' ≠ h := by
      rintro rfl
      rw [live] at live'
      obtain ⟨_, rfl⟩ := Prod.mk.inj (Option.some.inj live')
      exact differs about.symm
    rw [slots, if_neg other]
    exact live'
  · have size := a.sound.size_without live
    have count := a.count
    change (d.leases.without h key).size + closings device.2 = openings device.2
    rw [journal, Journal.openings_append, Journal.closings_append]
    simp only [activeCount] at count
    simp only [openings, closings, List.countP_singleton, Call.opens, Call.closes] at count ⊢
    simp only [Bool.false_eq_true, if_false, if_true]
    omega
  · exact dated
  · exact silent

/-- A call that failed to open a channel. -/
theorem decline (a : d.Accounted) {device : σ × Journal T V} {key : UInt32} {asked : T}
    (journal : device.2 = d.device.2 ++ [⟨⟨d.device.2.length, key⟩, .claim asked, false⟩]) :
    ({ d with device := device } : Desk _ _ _).Accounted := by
  have passing : Passing ⟨d.device.2.length, key⟩
      ([⟨⟨d.device.2.length, key⟩, .claim asked, false⟩] : Journal T V) := by
    intro c member
    rw [List.mem_singleton.mp member]
    exact ⟨rfl, rfl, rfl⟩
  obtain ⟨dated, silent⟩ := a.extend _ (Journal.silentAfterClose_passing passing) fun c member => by
    rw [(passing c member).1]
    exact .inr rfl
  rw [← journal] at dated silent
  constructor
  · exact a.sound
  · intro h key' lease live
    rw [journal, Journal.isOpen_append_passing passing]
    exact a.held h key' lease live
  · intro tag hopen
    rw [journal, Journal.isOpen_append_passing passing] at hopen
    exact a.handed tag hopen
  · have count := a.count
    change d.activeCount + closings device.2 = openings device.2
    rw [journal, Journal.openings_append, Journal.closings_append,
      Journal.openings_passing passing, Journal.closings_passing passing]
    omega
  · exact dated
  · exact silent

/-- A call that opened a channel on a free key, which is leased. -/
theorem lend (a : d.Accounted) {device : σ × Journal T V} {key : UInt32} {asked : T}
    (free : d.leases.containsKey key = false)
    (journal : device.2 = d.device.2 ++ [⟨⟨d.device.2.length, key⟩, .claim asked, true⟩])
    {lease : Lease S (Tagged C)} (tag : lease.channel.tag = ⟨d.device.2.length, key⟩) :
    (d.lend key device lease).Accounted := by
  have slots := HandleTable.slots_entered (t := d.leases) ⟨d.counter⟩ key lease
  have reopen (t : Tag) : IsOpen device.2 t ↔ IsOpen d.device.2 t ∨ t = lease.channel.tag := by
    rw [journal, tag]
    refine Journal.isOpen_append_opening rfl fun c old same => ?_
    have := a.dated c old
    rw [same] at this
    exact Nat.lt_irrefl _ this
  obtain ⟨dated, silent⟩ := a.extend [⟨⟨d.device.2.length, key⟩, .claim asked, true⟩]
    (List.pairwise_singleton _ _) fun c member => by
    rw [List.mem_singleton.mp member]
    exact .inr rfl
  rw [← journal] at dated silent
  constructor
  · exact a.sound.entered free lease
  · intro h' key' lease' live'
    change (d.leases.entered ⟨d.counter⟩ key lease).slots.get? h' = some (key', lease') at live'
    rw [slots] at live'
    split at live'
    · obtain ⟨rfl, rfl⟩ := Prod.mk.inj (Option.some.inj live')
      exact ⟨by rw [tag], (reopen _).mpr (.inr rfl)⟩
    · obtain ⟨keyed', hopen'⟩ := a.held h' key' lease' live'
      exact ⟨keyed', (reopen _).mpr (.inl hopen')⟩
  · intro tag' hopen'
    rcases (reopen tag').mp hopen' with was | rfl
    · obtain ⟨h', key', lease', live', about⟩ := a.handed tag' was
      refine ⟨h', key', lease', ?_, about⟩
      change (d.leases.entered ⟨d.counter⟩ key lease).slots.get? h' = _
      have other : h' ≠ ⟨d.counter⟩ := by
        rintro rfl
        rw [a.sound.fresh] at live'
        cases live'
      rw [slots, if_neg other]
      exact live'
    · refine ⟨⟨d.counter⟩, key, lease, ?_, rfl⟩
      change (d.leases.entered ⟨d.counter⟩ key lease).slots.get? ⟨d.counter⟩ = _
      rw [slots, if_pos rfl]
  · have size := a.sound.size_entered key lease
    have count := a.count
    change (d.leases.entered ⟨d.counter⟩ key lease).size + closings device.2 = openings device.2
    rw [journal, Journal.openings_append, Journal.closings_append]
    simp only [activeCount] at count
    simp only [openings, closings, List.countP_singleton, Call.opens, Call.closes] at count ⊢
    simp only [Bool.false_eq_true, if_false, if_true]
    omega
  · exact dated
  · exact silent

end Accounted

end Desk

end Peripherals

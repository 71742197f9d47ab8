import Peripherals.Proofs.Dossier.Held
/-!
Desks whose device is documented. Main statement: at a desk whose device deals with its ports properly,
exports and unexports are paired and balanced after every command and after the end of the desk, a
failed request takes its export back once, and a failed release keeps the mark for the next one.
-/

set_option autoImplicit false

namespace Peripherals

variable {φ S T V C A K α : Type}

/-- What winding up a resource does at the ports: nothing if it cannot be brought to rest, else what
closing it does. -/
inductive Ports.Ending (p : Ports C) (key : UInt32) :
    Except Fault Unit → Bool → Bool → Option Fault → FileLog → Prop
  | restless (f : Fault) (marked : Bool) : Ending p key (.error f) marked marked (some f) []
  | closed {marked marked' : Bool} {fault? : Option Fault} {log : FileLog}
    (closing : p.Closing key marked marked' fault? log) :
    Ending p key (.ok ()) marked marked' fault? log

/-- A documented device that claims and closes properly, and comes near the ports in no other call. -/
structure Device.Deals (dev : Device (φ × Dossier T V) S (Tagged C)) (p : Ports C) : Prop where
  claim : ∀ s, ∃ settings x, dev.claim s = Dossier.claiming (dev.trade.key s) settings x ∧
    p.Claims (dev.trade.key s) x
  rest : ∀ key q (lease : Lease S (Tagged C)), p.own key lease.channel.channel →
    (dev.rest (q, lease)).state.2.channel.tag = lease.channel.tag ∧
      p.own key (dev.rest (q, lease)).state.2.channel.channel ∧
      p.marked (dev.rest (q, lease)).state.2.channel.channel = p.marked lease.channel.channel ∧
      ∃ calls, (dev.rest (q, lease)).state.1.2 = q.2 ++ calls ∧
        ∀ r ∈ calls, r.tag = lease.channel.tag ∧ p.traffic r.files = []
  rest_held : Keeps (Held p) (fun _ => True) dev.rest fun _ _ => True
  close : ∃ x, dev.close = Action.zoom Lease.channelLens (Dossier.calling .close x) ∧ p.Closes x

/-- What a command does to the exports of a desk. -/
structure Desk.Settles (dev : Device (φ × Dossier T V) S (Tagged C)) (p : Ports C)
    (granted : Handle → A) (d : Desk (φ × Dossier T V) S (Tagged C))
    (e : Errand (φ × Dossier T V) S (Tagged C) A) (answer : Except Fault A)
    (d' : Desk (φ × Dossier T V) S (Tagged C)) : Prop where
  /-- A request that the desk itself refuses reaches no file. -/
  refused : ∀ check s, e = .request check s →
    (∃ f, check = .error f) ∨ d.leases.containsKey (dev.trade.key s) = true →
    (∃ f, answer = .error f) ∧ d' = d
  /-- Any other request is one claim, fails as the claim does, and leases what the claim opened, marked
  if the resource was not found. -/
  request : ∀ s, e = .request (.ok ()) s → d.leases.containsKey (dev.trade.key s) = false →
    ∃ r t found, d'.device.2 = d.device.2 ++ [r] ∧ r.tag = ⟨d.device.2.length, dev.trade.key s⟩ ∧
      r.act = .claim t ∧ p.Claimed (dev.trade.key s) found r.fault? r.files ∧
      failure? answer = r.fault? ∧ (r.fault? ≠ none → d'.leases = d.leases) ∧
      (r.fault? = none → ∃ h lease, answer = .ok (granted h) ∧ d'.leases.get? h = some lease ∧
        lease.channel.tag = r.tag ∧ p.marked lease.channel.channel = !found)
  /-- A release winds the resource up. If it fails the lease stays, with its channel and its mark. -/
  release : ∀ h lease, e = .release h → d.leases.get? h = some lease →
    ∃ calls marked', d'.device.2 = d.device.2 ++ calls ∧ (∀ r ∈ calls, r.tag = lease.channel.tag) ∧
      p.Ending lease.channel.tag.key (dev.rest (d.device, lease)).answer
        (p.marked lease.channel.channel) marked' (failure? answer) (p.traffic (Dossier.files calls)) ∧
      (failure? answer ≠ none → ∃ lease', d'.leases.get? h = some lease' ∧
        lease'.channel.tag = lease.channel.tag ∧ p.marked lease'.channel.channel = marked')

/-- The exports of a desk: what was done, what the leases still owe, what the next command does and
what the end of the desk leaves behind. -/
structure Desk.Settled (dev : Device (φ × Dossier T V) S (Tagged C)) (p : Ports C)
    (granted : Handle → A) (errand : K → Errand (φ × Dossier T V) S (Tagged C) A)
    (perform : K → Action Fault (Desk (φ × Dossier T V) S (Tagged C)) A)
    (d : Desk (φ × Dossier T V) S (Tagged C)) : Prop where
  paired : d.device.2.Paired p
  live : ∀ h key lease, d.leases.slots.get? h = some (key, lease) →
    d.device.2.Tied p key lease.channel ∧ d.device.2.Balanced p key (p.marked lease.channel.channel)
  idle : ∀ key, d.leases.containsKey key = false → d.device.2.Balanced p key false
  settles : ∀ k, d.Settles dev p granted (errand k) (perform k d).answer (perform k d).state
  /-- In whatever order the leases that are left are dismissed. -/
  dismissed : ∀ order, order.Perm d.leases.entries →
    let last := (dev.dismissAll order d.device).state.2
    d.device.2 <+: last ∧ last.Paired p ∧ ∀ key, last.Balanced p key false

namespace Device.Deals

variable {dev : Device (φ × Dossier T V) S (Tagged C)} {p : Ports C} {key : UInt32}
  {q : φ × Dossier T V} {lease : Lease S (Tagged C)}

private theorem windUp_held (deals : dev.Deals p) (held : Held p key q (some lease)) :
    Held p key (dev.windUp (q, lease)).state.1 (some (dev.windUp (q, lease)).state.2) ∧
      ((dev.windUp (q, lease)).answer = .ok () →
        Held (S := S) p key (dev.windUp (q, lease)).state.1 none) ∧
      ∀ other (l : Option (Lease S (Tagged C))), other ≠ key → Held p other q l →
        Held p other (dev.windUp (q, lease)).state.1 l := by
  obtain ⟨kept, others, _⟩ := deals.rest_held key (q, lease) held trivial
  cases h : (dev.rest (q, lease)).answer with
  | error f =>
    obtain ⟨answer, state⟩ := (dev.windUp_apply (q, lease)).1 f h
    rw [answer, state]
    exact ⟨kept, (fun closed => nomatch closed), others⟩
  | ok u =>
    obtain ⟨_, state⟩ := (dev.windUp_apply (q, lease)).2 h
    obtain ⟨x, close, closes⟩ := deals.close
    obtain ⟨still, bare, others'⟩ := kept.close closes
    rw [state, close]
    exact ⟨still _, fun _ => bare, fun other l differs was =>
      others' other l differs (others other l differs was)⟩

theorem tends (deals : dev.Deals p) : dev.Tends (Held p) fun _ => True where
  claim_others s q _ bare other l differs was := by
    obtain ⟨settings, x, claim, claims⟩ := deals.claim s
    rw [claim]
    exact (bare.claim claims settings).1 other l differs was
  claim_error s q f _ bare failed := by
    obtain ⟨settings, x, claim, claims⟩ := deals.claim s
    rw [claim] at failed ⊢
    exact (bare.claim claims settings).2.1 f failed
  claim_ok s q c _ bare opened := by
    obtain ⟨settings, x, claim, claims⟩ := deals.claim s
    rw [claim] at opened ⊢
    exact (bare.claim claims settings).2.2 c s opened
  windUp_others _ _ held := (deals.windUp_held held).2.2
  windUp_error _ _ _ held _ := (deals.windUp_held held).1
  windUp_ok _ _ held closed := (deals.windUp_held held).2.1 closed

/-- What winding up a resource adds to the dossier. -/
private theorem windUp_apply (deals : dev.Deals p) (own : p.own key lease.channel.channel) :
    (dev.windUp (q, lease)).state.2.channel.tag = lease.channel.tag ∧
      ∃ calls, (dev.windUp (q, lease)).state.1.2 = q.2 ++ calls ∧
        (∀ r ∈ calls, r.tag = lease.channel.tag) ∧
        p.Ending key (dev.rest (q, lease)).answer (p.marked lease.channel.channel)
          (p.marked (dev.windUp (q, lease)).state.2.channel.channel)
          (failure? (dev.windUp (q, lease)).answer) (p.traffic (Dossier.files calls)) := by
  obtain ⟨tag, own', marked, calls, journal, about⟩ := deals.rest key q lease own
  have quiet : p.traffic (Dossier.files calls) = [] := by
    refine List.filter_eq_nil_iff.mpr fun e member passes => ?_
    obtain ⟨r, called, asked⟩ := List.mem_flatMap.mp member
    have nothing := List.filter_eq_nil_iff.mp (about r called).2 e asked
    exact nothing passes
  cases h : (dev.rest (q, lease)).answer with
  | error f =>
    obtain ⟨answer, state⟩ := (dev.windUp_apply (q, lease)).1 f h
    rw [answer, state, marked]
    refine ⟨tag, calls, journal, fun r member => (about r member).1, ?_⟩
    rw [quiet]
    exact .restless f _
  | ok u =>
    obtain ⟨answer, state⟩ := (dev.windUp_apply (q, lease)).2 h
    obtain ⟨x, close, closes⟩ := deals.close
    obtain ⟨log, journal', closing, tag', _⟩ := Dossier.closing_apply (T := T) (V := V) closes
      (dev.rest (q, lease)).state.1 own'
    rw [journal, List.append_assoc] at journal'
    rw [answer, state, close]
    refine ⟨tag'.trans tag, _, journal', fun r member => ?_, ?_⟩
    · rcases List.mem_append.mp member with earlier | last
      · exact (about r earlier).1
      · rw [List.mem_singleton.mp last]
        exact tag
    · rw [Dossier.files_concat, Ports.traffic_append, quiet, List.nil_append, closing.traffic_eq,
        ← marked]
      exact .closed closing

private theorem dismisses (deals : dev.Deals p) (past : Dossier T V) :
    dev.Dismisses fun key q l => past <+: q.2 ∧ Held p key q l := by
  rintro h key q lease ⟨longer, held⟩
  rw [dev.dismiss_state]
  obtain ⟨kept, others, _⟩ := deals.rest_held key (q, lease) held trivial
  obtain ⟨_, own, _, calls, journal, _⟩ := deals.rest key q lease held.2.2.own
  obtain ⟨x, close, closes⟩ := deals.close
  obtain ⟨_, bare, others'⟩ := kept.close closes
  obtain ⟨log, journal', _⟩ := Dossier.closing_apply (T := T) (V := V) closes
    (dev.rest (q, lease)).state.1 own
  rw [journal, List.append_assoc] at journal'
  rw [close]
  have longer' : past <+: (Dossier.calling .close x ((dev.rest (q, lease)).state.1,
      (dev.rest (q, lease)).state.2.channel)).state.1.2 := by
    rw [journal']
    exact longer.trans (List.prefix_append _ _)
  refine ⟨⟨longer', bare⟩, fun other l differs was => ⟨longer', ?_⟩⟩
  exact others' other l differs (others other l differs was.2)

end Device.Deals

/-! ### Commands -/

section

variable {dev : Device (φ × Dossier T V) S (Tagged C)} {p : Ports C} {granted : Handle → A} {done : A}
  {d d' : Desk (φ × Dossier T V) S (Tagged C)}
  {e : Errand (φ × Dossier T V) S (Tagged C) A} {answer : Except Fault A}

private theorem Course.settles (course : Course dev granted done d e answer d') (deals : dev.Deals p)
    (tended : d.Tended (Held p)) : d.Settles dev p granted e answer d' where
  refused := by
    rintro check s rfl refusal
    cases check with
    | error f =>
      obtain ⟨rfl, rfl⟩ := course.of_barred
      exact ⟨⟨_, rfl⟩, rfl⟩
    | ok u =>
      rcases refusal with ⟨f, contra⟩ | busy
      · cases contra
      · obtain ⟨rfl, rfl⟩ := course.of_taken busy
        exact ⟨⟨_, rfl⟩, rfl⟩
  request := by
    rintro s rfl free
    obtain ⟨t, x, claim, claims⟩ := deals.claim s
    obtain ⟨log, found, journal, claimed, opens⟩ := Dossier.claiming_apply claims t d.device
    rw [← claim] at journal claimed opens
    obtain ⟨declines, grants⟩ := course.of_free free
    cases answers : (dev.claim s d.device).answer with
    | error f =>
      obtain ⟨rfl, rfl⟩ := declines f answers
      rw [answers] at journal claimed
      exact ⟨_, t, found, journal, rfl, rfl, claimed, rfl, fun _ => rfl, fun ok => nomatch ok⟩
    | ok c =>
      obtain ⟨rfl, rfl⟩ := grants c answers
      rw [answers] at journal claimed
      obtain ⟨tag, _, marked⟩ := opens c answers
      refine ⟨_, t, found, journal, rfl, rfl, claimed, rfl, fun fails => absurd rfl fails, fun _ => ?_⟩
      refine ⟨⟨d.counter⟩, ⟨s, c⟩, rfl, ?_, tag, marked⟩
      exact HandleTable.get?_eq_some_iff.mpr
        ⟨_, (HandleTable.slots_entered _ _ _ _).trans (if_pos rfl)⟩
  release := by
    rintro h lease rfl live
    obtain ⟨key, slot⟩ := HandleTable.get?_eq_some_iff.mp live
    have tied := (tended.live slot).2.2
    obtain ⟨tag, calls, journal, about, ending⟩ := deals.windUp_apply (q := d.device) tied.own
    rw [← tied.at_key] at ending
    rcases course.of_release slot with ⟨f, failed, rfl, rfl⟩ | ⟨closed, rfl, rfl⟩
    · rw [failed] at ending
      refine ⟨calls, _, journal, about, ending, fun _ => ⟨_, ?_, tag, rfl⟩⟩
      exact HandleTable.get?_eq_some_iff.mpr
        ⟨_, (HandleTable.slots_set slot _ _).trans (if_pos rfl)⟩
    · rw [closed] at ending
      exact ⟨calls, _, journal, about, ending, fun fails => absurd rfl fails⟩

/-- A desk whose exports are held in order is settled. -/
theorem Desk.Tended.settled {errand : K → Errand (φ × Dossier T V) S (Tagged C) A}
    {perform : K → Action Fault (Desk (φ × Dossier T V) S (Tagged C)) A}
    (same : ∀ k, perform k = (errand k).run dev granted done) (deals : dev.Deals p)
    (tended : d.Tended (Held p)) : d.Settled dev p granted errand perform where
  paired := (tended.holds 0).paired
  live h key lease slot := by
    obtain ⟨_, balanced, tied⟩ := tended.live slot
    exact ⟨tied, balanced⟩
  idle key free := (tended.free free).2
  settles k := by
    have course := (errand k).course dev granted done d
    rw [← same k] at course
    exact course.settles deals tended
  dismissed order perm := by
    have from_here : d.Tended fun key q l => d.device.2 <+: q.2 ∧ Held p key q l :=
      ⟨tended.sound, fun key => ⟨List.prefix_rfl, tended.holds key⟩⟩
    have all := from_here.dismissAll (deals.dismisses d.device.2) perm
    exact ⟨(all 0).1, (all 0).2.1, fun key => (all key).2.2⟩

end

end Peripherals

import Peripherals.Proofs.Dossier.Paired
/-!
Keys of a desk whose device is documented. Main statement: claims, uses and closings of a driver that
deals with its ports properly keep the pairs, the balance of every number and the marks of the leases.
-/

set_option autoImplicit false

namespace Peripherals

variable {φ S T V C A α : Type} {p : Ports C} {key : UInt32}

namespace Dossier

/-- What a claim adds to the dossier. -/
theorem claiming_apply {x : Action Fault (φ × FileLog) C} (claims : p.Claims key x) (settings : T)
    (q : φ × Dossier T V) : ∃ log found,
      (claiming key settings x q).state.2 = q.2 ++ [⟨⟨q.2.length, key⟩, .claim settings, log,
        failure? (claiming key settings x q).answer⟩] ∧
      p.Claimed key found (failure? (claiming key settings x q).answer) log ∧
      ∀ c, (claiming key settings x q).answer = .ok c →
        c.tag = ⟨q.2.length, key⟩ ∧ p.own key c.channel ∧ p.marked c.channel = !found := by
  obtain ⟨log, state, found, claimed, opens⟩ := claims (q.1, [])
  refine ⟨log, found, ?_⟩
  simp only [claiming]
  rw [List.nil_append] at state
  cases answer : (x (q.1, [])).answer with
  | error f =>
    rw [answer] at claimed
    rw [state]
    refine ⟨rfl, claimed, fun c contra => ?_⟩
    cases contra
  | ok c =>
    rw [answer] at claimed
    obtain ⟨own, marked⟩ := opens c answer
    rw [state]
    refine ⟨rfl, claimed, fun c' same => ?_⟩
    obtain rfl := Except.ok.inj same
    exact ⟨rfl, own, marked⟩

theorem using_apply {x : Action Fault ((φ × FileLog) × C) α} (passes : p.Passes x) (verb : V)
    (q : φ × Dossier T V) {c : Tagged C} (own : p.own key c.channel) : ∃ log,
      (calling (.use verb) x (q, c)).state.1.2 = q.2 ++ [⟨c.tag, .use verb, log,
        failure? (calling (.use verb) x (q, c)).answer⟩] ∧
      p.traffic log = [] ∧ (calling (.use verb) x (q, c)).state.2.tag = c.tag ∧
      p.own key (calling (.use verb) x (q, c)).state.2.channel ∧
      p.marked (calling (.use verb) x (q, c)).state.2.channel = p.marked c.channel := by
  obtain ⟨log, state, quiet, own', marked⟩ := passes key ((q.1, []), c.channel) own
  rw [List.nil_append] at state
  refine ⟨log, ?_, quiet, rfl, own', marked⟩
  simp only [calling]
  rw [state]

theorem closing_apply {x : Action Fault ((φ × FileLog) × C) Unit} (closes : p.Closes x)
    (q : φ × Dossier T V) {c : Tagged C} (own : p.own key c.channel) : ∃ log,
      (calling .close x (q, c)).state.1.2 = q.2 ++ [⟨c.tag, .close, log,
        failure? (calling .close x (q, c)).answer⟩] ∧
      p.Closing key (p.marked c.channel) (p.marked (calling .close x (q, c)).state.2.channel)
        (failure? (calling .close x (q, c)).answer) log ∧
      (calling .close x (q, c)).state.2.tag = c.tag ∧
      p.own key (calling .close x (q, c)).state.2.channel := by
  obtain ⟨log, state, own', closing⟩ := closes key ((q.1, []), c.channel) own
  rw [List.nil_append] at state
  refine ⟨log, ?_, closing, rfl, own'⟩
  simp only [calling]
  rw [state]

end Dossier

/-- Exports and unexports are paired, the number is balanced, and the mark of the channel leased on it
is right. -/
def Held (p : Ports C) : KeyProperty (φ × Dossier T V) S (Tagged C)
  | key, q, some lease => q.2.Paired p ∧ q.2.Balanced p key (p.marked lease.channel.channel) ∧
    q.2.Tied p key lease.channel
  | key, q, none => q.2.Paired p ∧ q.2.Balanced p key false

namespace Held

variable {q q' : φ × Dossier T V} {lease : Lease S (Tagged C)}

theorem paired {l : Option (Lease S (Tagged C))} (held : Held p key q l) : q.2.Paired p := by
  cases l with
  | none => exact held.1
  | some lease => exact held.1

private theorem other {l : Option (Lease S (Tagged C))} (held : Held p key q l) {r : Record T V}
    (journal : q'.2 = q.2 ++ [r]) (after : q'.2.Paired p) (differs : key ≠ r.tag.key) :
    Held p key q' l := by
  have fair : r.Fair p := after.fair r (by rw [journal]; simp)
  cases l with
  | none =>
    refine ⟨after, ?_⟩
    rw [journal]
    exact held.2.other fair differs
  | some lease =>
    obtain ⟨_, balanced, tied⟩ := held
    refine ⟨after, ?_⟩
    rw [journal]
    exact ⟨balanced.other fair differs, tied.other differs⟩

theorem claim (held : Held (S := S) p key q none) {x : Action Fault (φ × FileLog) C}
    (claims : p.Claims key x) (settings : T) :
    (∀ other (l : Option (Lease S (Tagged C))), other ≠ key → Held p other q l →
      Held p other (Dossier.claiming key settings x q).state l) ∧
    (∀ f, (Dossier.claiming key settings x q).answer = .error f →
      Held (S := S) p key (Dossier.claiming key settings x q).state none) ∧
    ∀ c (s : S), (Dossier.claiming key settings x q).answer = .ok c →
      Held p key (Dossier.claiming key settings x q).state (some ⟨s, c⟩) := by
  obtain ⟨paired, balanced⟩ := held
  obtain ⟨log, found, journal, claimed, opens⟩ := Dossier.claiming_apply claims settings q
  have bare : q.2.story p ⟨q.2.length, key⟩ = [] := paired.story_fresh rfl
  obtain ⟨owed, story, owes⟩ := claimed.opening.story
  have after : (Dossier.claiming key settings x q).state.2.Paired p := by
    rw [journal]
    refine paired.concat ⟨found, claimed⟩ (.inl ⟨⟨settings, rfl⟩, rfl⟩) ⟨owed, ?_⟩
      fun other => absurd rfl (other settings)
    rw [bare]
    exact story
  refine ⟨fun other l differs was => was.other journal after differs, fun f failed => ?_,
    fun c s opened => ?_⟩
  · have opening := claimed.opening
    rw [failed] at opening
    refine ⟨after, ?_⟩
    rw [journal]
    exact balanced.concat fun unfailed => opening.balance unfailed
  · obtain ⟨tag, own, marked⟩ := opens c opened
    have opening := claimed.opening
    rw [opened] at opening journal owes
    refine ⟨after, ?_, ?_⟩
    · rw [journal, marked]
      refine balanced.concat fun unfailed => ?_
      have counts := opening.balance unfailed
      cases found <;> exact counts
    · rw [journal]
      refine ⟨by rw [tag], own, ?_, ?_⟩
      · rw [tag]
        exact ⟨_, settings, List.getElem?_concat_length, rfl, rfl, rfl⟩
      · rw [Dossier.story_concat, tag, if_pos rfl, bare, marked, ← owes rfl]
        exact story

theorem use (held : Held p key q (some lease)) {x : Action Fault ((φ × FileLog) × C) α}
    (passes : p.Passes x) (verb : V) :
    (∀ s : S, Held p key (Dossier.calling (.use verb) x (q, lease.channel)).state.1
      (some ⟨s, (Dossier.calling (.use verb) x (q, lease.channel)).state.2⟩)) ∧
    ∀ other (l : Option (Lease S (Tagged C))), other ≠ key → Held p other q l →
      Held p other (Dossier.calling (.use verb) x (q, lease.channel)).state.1 l := by
  obtain ⟨paired, balanced, tied⟩ := held
  obtain ⟨log, journal, quiet, tag, own, marked⟩ := Dossier.using_apply passes verb q tied.own
  have after : (Dossier.calling (.use verb) x (q, lease.channel)).state.1.2.Paired p := by
    rw [journal]
    refine paired.concat quiet ?_ ?_ fun _ _ => quiet
    · exact .inr ⟨(fun t act => nomatch act), tied.granted.serial_lt, tied.granted⟩
    · rw [quiet, List.append_nil]
      exact paired.stories _
  constructor
  · intro s
    refine ⟨after, ?_, ?_⟩
    · rw [journal, marked]
      refine balanced.concat fun _ => ?_
      rw [quiet]
      rfl
    · rw [journal]
      refine tied.concat rfl tag own ?_
      rw [quiet, List.append_nil, marked]
      exact tied.story
  · intro other l differs was
    refine was.other journal after ?_
    rw [tied.at_key]
    exact differs

theorem close (held : Held p key q (some lease)) {x : Action Fault ((φ × FileLog) × C) Unit}
    (closes : p.Closes x) :
    (∀ s : S, Held p key (Dossier.calling (.close : Act T V) x (q, lease.channel)).state.1
      (some ⟨s, (Dossier.calling (.close : Act T V) x (q, lease.channel)).state.2⟩)) ∧
    Held (S := S) p key (Dossier.calling (.close : Act T V) x (q, lease.channel)).state.1 none ∧
    ∀ other (l : Option (Lease S (Tagged C))), other ≠ key → Held p other q l →
      Held p other (Dossier.calling (.close : Act T V) x (q, lease.channel)).state.1 l := by
  obtain ⟨paired, balanced, tied⟩ := held
  obtain ⟨log, journal, closing, tag, own⟩ := Dossier.closing_apply (T := T) (V := V) closes q tied.own
  have passed := closing.traffic_eq
  have story := closing.story tied.story
  have at_key := tied.at_key
  have brought : p.Closing lease.channel.tag.key (p.marked lease.channel.channel)
      (p.marked (Dossier.calling (.close : Act T V) x (q, lease.channel)).state.2.channel)
      (failure? (Dossier.calling (.close : Act T V) x (q, lease.channel)).answer)
      (p.traffic log) := by
    rw [passed, at_key]
    exact closing
  have after : (Dossier.calling (.close : Act T V) x (q, lease.channel)).state.1.2.Paired p := by
    rw [journal]
    refine paired.concat ⟨_, _, brought⟩ ?_ ?_ ?_
    · exact .inr ⟨(fun t act => nomatch act), tied.granted.serial_lt, tied.granted⟩
    · rw [passed, at_key]
      exact ⟨_, story⟩
    · intro _ past
      have nothing := tied.story
      rw [past] at nothing
      rw [nothing.unowed] at closing
      rw [passed]
      exact closing.of_unmarked
  refine ⟨fun s => ⟨after, ?_, ?_⟩, ⟨after, ?_⟩, fun other l differs was => ?_⟩
  · rw [journal]
    refine balanced.concat fun unfailed => ?_
    rw [passed] at unfailed ⊢
    obtain ⟨unmarked, counts⟩ := closing.balance unfailed
    rw [unmarked]
    exact counts
  · rw [journal]
    refine tied.concat rfl tag own ?_
    rw [passed]
    exact story
  · -- Where the unexport failed, nothing is said of the counts.
    rw [journal]
    refine balanced.concat fun unfailed => ?_
    rw [passed] at unfailed ⊢
    exact (closing.balance unfailed).2
  · refine was.other journal after ?_
    rw [at_key]
    exact differs

end Held

end Peripherals

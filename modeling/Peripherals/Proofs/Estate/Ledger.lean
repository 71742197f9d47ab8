import Peripherals.Proofs.Estate.Basic
/-!
The ledger of an estate: what was asked and answered beside which handles are live. Main statement: at
an estate whose ledger is right for every handle, every dealing leaves it right.
-/

set_option autoImplicit false

namespace Peripherals.Estate

variable {W : Type} {m : Manager W}

/-- What is known of a handle agrees with whether it is live. -/
structure Ledger (e : Estate m) (h : Handle) : Prop where
  below : e.Known h → h.number < e.desk.counter
  known : e.desk.Live h → e.Known h
  apart : e.Direct h → h ∉ e.pinned
  holder : ∀ x, e.pins h = some x →
    x.handle = h ∧ h ∈ e.pinned ∧ (x.released = true ↔ 0 < e.handedBack h)
  handed : 0 < e.handedBack h →
    h ∈ e.pinned ∧ e.handedBack h = 1 ∧ ¬ e.Withdrawn h ∧ ¬ e.desk.Live h
  withdrawn : e.Withdrawn h → e.Known h ∧ ¬ e.desk.Live h
  gone : e.Known h → ¬ e.desk.Live h → 0 < e.handedBack h ∨ e.Withdrawn h

theorem ledger_start (m : Manager W) (world : W) (counter : Nat) (h : Handle) :
    (start m world counter).Ledger h := by
  have unknown : ¬ (start m world counter).Known h := by
    rintro (⟨k, _, member⟩ | member)
    · cases member
    · cases member
  have dead : ¬ (start m world counter).desk.Live h := by
    rintro ⟨key, found⟩
    cases found
  constructor
  · exact fun known => absurd known unknown
  · exact fun live => absurd live dead
  · rintro ⟨k, _, member⟩
    cases member
  · exact fun x none => nomatch none
  · exact fun positive => absurd positive (Nat.lt_irrefl 0)
  · rintro ⟨a, member⟩
    cases member
  · exact fun known => absurd known unknown

namespace Ledger

variable {e e' : Estate m} {h : Handle}

private theorem idle (l : e.Ledger h) (pins : ∀ x, e'.pins h = some x →
      x.handle = h ∧ h ∈ e.pinned ∧ (x.released = true ↔ 0 < e.handedBack h))
    (pinned : h ∈ e'.pinned ↔ h ∈ e.pinned) (handed : e'.handedBack h = e.handedBack h)
    (direct : e'.Direct h ↔ e.Direct h) (withdrawn : e'.Withdrawn h ↔ e.Withdrawn h)
    (live : e'.desk.Live h ↔ e.desk.Live h) (later : e.desk.counter ≤ e'.desk.counter) :
    e'.Ledger h := by
  have known : e'.Known h ↔ e.Known h := or_congr direct pinned
  constructor
  · exact fun was => Nat.lt_of_lt_of_le (l.below (known.mp was)) later
  · exact fun alive => known.mpr (l.known (live.mp alive))
  · exact fun asked owned => l.apart (direct.mp asked) (pinned.mp owned)
  · rw [pinned, handed]
    exact pins
  · rw [handed, pinned, withdrawn, live]
    exact l.handed
  · rw [withdrawn, known, live]
    exact l.withdrawn
  · rw [known, live, handed, withdrawn]
    exact l.gone

private theorem fresh (l : e.Ledger ⟨e.desk.counter⟩) :
    ¬ e.Known ⟨e.desk.counter⟩ ∧ ¬ e.desk.Live ⟨e.desk.counter⟩ ∧
      e.handedBack ⟨e.desk.counter⟩ = 0 ∧ ¬ e.Withdrawn ⟨e.desk.counter⟩ ∧
      e.pins ⟨e.desk.counter⟩ = none := by
  have unknown : ¬ e.Known ⟨e.desk.counter⟩ := fun known => Nat.lt_irrefl _ (l.below known)
  refine ⟨unknown, fun live => unknown (l.known live), ?_, fun gone => unknown (l.withdrawn gone).1,
    ?_⟩
  · by_contra positive
    exact unknown (.inr (l.handed (Nat.pos_of_ne_zero positive)).1)
  · cases held : e.pins ⟨e.desk.counter⟩ with
    | none => rfl
    | some x => exact absurd (.inr (l.holder x held).2.1) unknown

theorem untouched (l : e.Ledger h) (live : e.desk.Live h) :
    e.handedBack h = 0 ∧ ¬ e.Withdrawn h := by
  constructor
  · by_contra positive
    exact (l.handed (Nat.pos_of_ne_zero positive)).2.2.2 live
  · exact fun gone => (l.withdrawn gone).2 live

private theorem issue (l : e.Ledger ⟨e.desk.counter⟩) (known : e'.Known ⟨e.desk.counter⟩)
    (apart : e'.Direct ⟨e.desk.counter⟩ → ⟨e.desk.counter⟩ ∉ e'.pinned)
    (pins : ∀ x, e'.pins ⟨e.desk.counter⟩ = some x →
      x.handle = ⟨e.desk.counter⟩ ∧ ⟨e.desk.counter⟩ ∈ e'.pinned ∧ x.released = false)
    (handed : e'.handedBack ⟨e.desk.counter⟩ = e.handedBack ⟨e.desk.counter⟩)
    (withdrawn : e'.Withdrawn ⟨e.desk.counter⟩ ↔ e.Withdrawn ⟨e.desk.counter⟩)
    (live : e'.desk.Live ⟨e.desk.counter⟩) (later : e.desk.counter < e'.desk.counter) :
    e'.Ledger ⟨e.desk.counter⟩ := by
  obtain ⟨_, _, never, unwithdrawn, _⟩ := l.fresh
  rw [never] at handed
  constructor
  · exact fun _ => later
  · exact fun _ => known
  · exact apart
  · intro x held
    obtain ⟨own, owned, unreleased⟩ := pins x held
    refine ⟨own, owned, ?_⟩
    rw [handed, unreleased]
    simp
  · intro positive
    rw [handed] at positive
    exact absurd positive (Nat.lt_irrefl 0)
  · exact fun gone => absurd (withdrawn.mp gone) unwithdrawn
  · exact fun _ dead => absurd live dead

private theorem takenBack (l : e.Ledger h) (was : e.desk.Live h) (dead : ¬ e'.desk.Live h)
    (direct : e'.Direct h ↔ e.Direct h) (pinned : e'.pinned = e.pinned)
    (pins : ∀ x, e'.pins h = some x → x.handle = h ∧ h ∈ e.pinned ∧
      (x.released = true ↔ 0 < e'.handedBack h))
    (once : (e'.handedBack h = 1 ∧ h ∈ e.pinned ∧ ¬ e'.Withdrawn h) ∨
      (e'.handedBack h = 0 ∧ e'.Withdrawn h)) (later : e.desk.counter ≤ e'.desk.counter) :
    e'.Ledger h := by
  have known : e'.Known h ↔ e.Known h := by
    unfold Known
    rw [direct, pinned]
  constructor
  · exact fun was_known => Nat.lt_of_lt_of_le (l.below (known.mp was_known)) later
  · exact fun alive => absurd alive dead
  · intro asked
    rw [pinned]
    exact l.apart (direct.mp asked)
  · rw [pinned]
    exact pins
  · intro positive
    rw [pinned]
    rcases once with ⟨one, owned, unwithdrawn⟩ | ⟨never, _⟩
    · exact ⟨owned, one, unwithdrawn, dead⟩
    · exact absurd positive (Nat.not_lt.mpr (Nat.le_of_eq never))
  · exact fun _ => ⟨known.mpr (l.known was), dead⟩
  · intro _ _
    rcases once with ⟨one, _⟩ | ⟨_, gone⟩
    · exact .inl (one ▸ Nat.one_pos)
    · exact .inr gone

end Ledger

/-! ### Dealings -/

variable {e : Estate m} {h : Handle}

private theorem Ledger.command_issued (l : e.Ledger h) {k : m.Command} (request : m.handle? k = none)
    (ok : (m.perform k e.desk).answer = .ok (m.granted ⟨e.desk.counter⟩))
    (counter : (m.perform k e.desk).state.counter = e.desk.counter + 1)
    (live : (m.perform k e.desk).state.Live h ↔ e.desk.Live h ∨ h = ⟨e.desk.counter⟩) :
    (e.step (.command k)).Ledger h := by
  have withdrawn : (e.step (.command k)).Withdrawn h ↔ e.Withdrawn h := by
    refine withdrawn_of_unreleased ?_
    rintro rfl
    rw [m.handle?_release] at request
    cases request
  by_cases next : h = ⟨e.desk.counter⟩
  · subst next
    obtain ⟨unknown, _, _, _, unheld⟩ := l.fresh
    have direct := (e.direct_command k _).mpr (.inr ⟨request, ok⟩)
    refine l.issue (.inl direct) (fun _ owned => unknown (.inr owned)) (fun x held => ?_) rfl
      withdrawn (live.mpr (.inr rfl)) (Nat.lt_of_succ_le (Nat.le_of_eq counter.symm))
    exact nomatch unheld.symm.trans held
  · have direct : (e.step (.command k)).Direct h ↔ e.Direct h := by
      refine direct_of_ungranted fun _ answer => ?_
      rw [ok] at answer
      exact next (m.granted_injective (Except.ok.inj answer)).symm
    exact l.idle l.holder Iff.rfl rfl direct withdrawn (live.trans (or_iff_left next))
      (Nat.le.intro counter.symm)

private theorem Ledger.command_returned (l : e.Ledger h) {h₀ : Handle}
    (ok : ∃ a, (m.perform (m.release h₀) e.desk).answer = .ok a) (was : e.desk.Live h₀)
    (counter : (m.perform (m.release h₀) e.desk).state.counter = e.desk.counter)
    (live : (m.perform (m.release h₀) e.desk).state.Live h ↔ e.desk.Live h ∧ h ≠ h₀) :
    (e.step (.command (m.release h₀))).Ledger h := by
  have direct : (e.step (.command (m.release h₀))).Direct h ↔ e.Direct h := by
    refine direct_of_ungranted fun request => ?_
    rw [m.handle?_release] at request
    cases request
  by_cases own : h = h₀
  · subst own
    obtain ⟨never, _⟩ := l.untouched was
    have withdrawn := (e.withdrawn_command (m.release h) h).mpr (.inr ⟨rfl, ok⟩)
    exact l.takenBack was (fun alive => (live.mp alive).2 rfl) direct rfl l.holder
      (.inr ⟨never, withdrawn⟩) (Nat.le_of_eq counter.symm)
  · have withdrawn : (e.step (.command (m.release h₀))).Withdrawn h ↔ e.Withdrawn h := by
      refine withdrawn_of_unreleased fun same => ?_
      have handles := congrArg m.handle? same
      rw [m.handle?_release, m.handle?_release] at handles
      exact absurd (Option.some.inj handles).symm own
    exact l.idle l.holder Iff.rfl rfl direct withdrawn (live.trans (and_iff_left own))
      (Nat.le_of_eq counter.symm)

private theorem Ledger.command (l : e.Ledger h) (k : m.Command) : (e.step (.command k)).Ledger h := by
  cases (m.course k e.desk).shift with
  | issued _ request _ ok counter keys =>
    rw [m.handle?_errand] at request
    exact l.command_issued request ok counter (Desk.live_of_issued keys h)
  | returned h₀ release ok was counter keys =>
    rw [m.errand_eq_release_iff] at release
    subst release
    exact l.command_returned ⟨_, ok⟩ was counter (Desk.live_of_returned keys h)
  | still request release counter keys =>
    refine l.idle l.holder Iff.rfl rfl (direct_of_ungranted fun asks granted => ?_)
      (withdrawn_of_unreleased fun same => release h (m.errand_eq_release_iff.mpr same))
      (live_of_keys keys h) (Nat.le_of_eq counter.symm)
    rw [← m.handle?_errand] at asks
    obtain ⟨f, failed⟩ := request asks
    rw [failed] at granted
    cases granted

private theorem Ledger.own (ledger : ∀ h, e.Ledger h) (c : m.Config) (h : Handle) :
    (e.step (.own c)).Ledger h := by
  have l := ledger h
  have request := m.handle?_request c
  cases (m.course (m.request c) e.desk).shift with
  | issued _ _ _ ok counter keys =>
    have live := Desk.live_of_issued keys
    have step : e.step (.own c) = { e with
        desk := (m.perform (m.request c) e.desk).state
        pins := Function.update e.pins ⟨e.desk.counter⟩
          (some ⟨⟨e.desk.counter⟩, m.settings c, false⟩)
        pinned := e.pinned ++ [⟨e.desk.counter⟩] } := by
      simp only [Estate.step, ok, Except.toOption, Option.bind_some, m.granted?_granted]
    rw [step]
    by_cases next : h = ⟨e.desk.counter⟩
    · subst next
      obtain ⟨unknown, _⟩ := l.fresh
      have owned : (⟨e.desk.counter⟩ : Handle) ∈ e.pinned ++ [⟨e.desk.counter⟩] :=
        List.mem_append_right _ (List.mem_singleton_self _)
      refine l.issue (.inr owned) (fun direct => absurd (.inl direct) unknown) (fun x held => ?_)
        rfl Iff.rfl ((live _).mpr (.inr rfl)) (Nat.lt_of_succ_le (Nat.le_of_eq counter.symm))
      change Function.update e.pins _ _ _ = some x at held
      rw [Function.update_self] at held
      obtain rfl := Option.some.inj held
      exact ⟨rfl, owned, rfl⟩
    · refine l.idle (fun x held => ?_) ?_ rfl Iff.rfl Iff.rfl ((live h).trans (or_iff_left next))
        (Nat.le.intro counter.symm)
      · change Function.update e.pins _ _ h = some x at held
        rw [Function.update_of_ne next] at held
        exact l.holder x held
      · rw [List.mem_append, List.mem_singleton]
        exact or_iff_left next
  | returned h₀ release =>
    rw [m.errand_eq_release_iff] at release
    rw [release, m.handle?_release] at request
    cases request
  | still fails _ counter keys =>
    rw [← m.handle?_errand] at request
    obtain ⟨f, failed⟩ := fails request
    have step : e.step (.own c) = { e with desk := (m.perform (m.request c) e.desk).state } := by
      simp only [Estate.step, failed, Except.toOption, Option.bind_none]
    rw [step]
    exact l.idle l.holder Iff.rfl rfl Iff.rfl Iff.rfl (live_of_keys keys h)
      (Nat.le_of_eq counter.symm)

private theorem Ledger.operate (ledger : ∀ h, e.Ledger h) {h₀ : Handle} {k : m.Command}
    (about : m.handle? k = some h₀) (keeps : k ≠ m.release h₀) (h : Handle) :
    (e.step (.operate h₀ k about keeps)).Ledger h := by
  have l := ledger h
  cases held : e.pins h₀ with
  | none =>
    simp only [Estate.step, held]
    exact l
  | some x =>
    simp only [Estate.step, held]
    cases (m.course k e.desk).shift with
    | issued _ request =>
      rw [m.handle?_errand, about] at request
      cases request
    | returned h₁ release =>
      rw [m.errand_eq_release_iff] at release
      subst release
      rw [m.handle?_release] at about
      obtain rfl := Option.some.inj about
      exact absurd rfl keeps
    | still _ _ counter keys =>
      exact l.idle l.holder Iff.rfl rfl Iff.rfl Iff.rfl (live_of_keys keys h)
        (Nat.le_of_eq counter.symm)

private theorem handedBack_asked {e' : Estate m} {h₀ : Handle} {answer : Except Fault Unit}
    (asked : e'.asked = e.asked ++ [(h₀, answer)]) (h : Handle) :
    e'.handedBack h = e.handedBack h + if h₀ = h ∧ answer.isOk = true then 1 else 0 := by
  unfold handedBack
  rw [asked, List.countP_append, List.countP_singleton]
  simp only [Bool.and_eq_true, decide_eq_true_eq]

/-- To the owner that asked, its resource was taken back or it was not. -/
private theorem Ledger.ask_own (l : e.Ledger h) {x : Owned m.Settings} (held : e.pins h = some x)
    (unreleased : x.released = false) {e' : Estate m} (direct : e'.Direct h ↔ e.Direct h)
    (withdrawn : e'.Withdrawn h ↔ e.Withdrawn h) (pinned : e'.pinned = e.pinned)
    (desk : e'.desk = (m.device.release h e.desk).state)
    (asked : e'.asked = e.asked ++ [(h, (m.device.release h e.desk).answer)])
    (own : ∀ y, e'.pins h = some y → y.handle = h ∧
      (y.released = true ↔ (m.device.release h e.desk).answer.isOk = true))
    (later : e.desk.counter ≤ e'.desk.counter) : e'.Ledger h := by
  obtain ⟨_, owned, positive⟩ := l.holder x held
  have never : e.handedBack h = 0 := by
    rw [unreleased] at positive
    simpa using positive
  have handed := handedBack_asked asked h
  rw [never, Nat.zero_add] at handed
  have pins : ∀ y, e'.pins h = some y →
      y.handle = h ∧ h ∈ e.pinned ∧ (y.released = true ↔ 0 < e'.handedBack h) := by
    intro y kept
    obtain ⟨mine, released⟩ := own y kept
    refine ⟨mine, owned, ?_⟩
    rw [released, handed]
    by_cases done : (m.device.release h e.desk).answer.isOk = true
    · simp [done]
    · simp [done]
  rcases m.device.release_cases h e.desk with ⟨done, was, live⟩ | ⟨⟨f, failed⟩, keys⟩
  · have one : e'.handedBack h = 1 := by
      rw [handed, done]
      exact if_pos ⟨rfl, rfl⟩
    have dead : ¬ e'.desk.Live h := by
      rw [desk, live]
      exact fun alive => alive.2 rfl
    refine l.takenBack was dead direct pinned pins (.inl ⟨one, owned, ?_⟩) later
    rw [withdrawn]
    exact (l.untouched was).2
  · have still : e'.handedBack h = e.handedBack h := by
      rw [handed, failed, never]
      exact if_neg fun done => nomatch done.2
    rw [still] at pins
    refine l.idle pins (by rw [pinned]) still direct withdrawn ?_ later
    rw [desk]
    exact live_of_keys keys h

private theorem Ledger.ask (ledger : ∀ h, e.Ledger h) {h₀ : Handle} {x : Owned m.Settings}
    (held : e.pins h₀ = some x) {e' : Estate m} (told : e'.told = e.told)
    (pinned : e'.pinned = e.pinned) (desk : e'.desk = (m.device.release h₀ e.desk).state)
    (asked : e'.asked = e.asked ++ [(h₀, (m.device.release h₀ e.desk).answer)])
    (others : ∀ h, h ≠ h₀ → e'.pins h = e.pins h)
    (own : ∀ y, e'.pins h₀ = some y → y.handle = h₀ ∧
      (y.released = true ↔ (m.device.release h₀ e.desk).answer.isOk = true))
    (unreleased : x.released = false) (h : Handle) : e'.Ledger h := by
  have l := ledger h
  have direct : e'.Direct h ↔ e.Direct h := by
    unfold Direct
    rw [told]
  have withdrawn : e'.Withdrawn h ↔ e.Withdrawn h := by
    unfold Withdrawn
    rw [told]
  have later : e.desk.counter ≤ e'.desk.counter := by
    rw [desk]
    exact Nat.le_of_eq (m.device.release_counter h₀ e.desk).symm
  by_cases here : h = h₀
  · subst here
    exact l.ask_own held unreleased direct withdrawn pinned desk asked own later
  · have still : e'.handedBack h = e.handedBack h := by
      rw [handedBack_asked asked h, if_neg fun same => here same.1.symm, Nat.add_zero]
    refine l.idle ?_ (by rw [pinned]) still direct withdrawn ?_ later
    · rw [others h here]
      exact l.holder
    · rw [desk]
      rcases m.device.release_cases h₀ e.desk with ⟨_, _, live⟩ | ⟨_, keys⟩
      · exact (live h).trans (and_iff_left here)
      · exact live_of_keys keys h

theorem Ledger.handle_eq (l : e.Ledger h) (x : Owned m.Settings) (held : e.pins h = some x) :
    x.handle = h :=
  (l.holder x held).1

private theorem Ledger.giveBack (ledger : ∀ h, e.Ledger h) (h₀ h : Handle) :
    (e.step (.giveBack h₀)).Ledger h := by
  rcases giveBack_cases (ledger h₀).handle_eq with same | ⟨x, held, unreleased, asks⟩
  · rw [same]
    exact ledger h
  · refine Ledger.ask ledger held ?_ ?_ ?_ ?_ ?_ ?_ unreleased h
    all_goals rw [asks]
    · exact fun j other => Function.update_of_ne other _ _
    · intro y kept
      change Function.update e.pins h₀ _ h₀ = some y at kept
      rw [Function.update_self] at kept
      obtain rfl := Option.some.inj kept
      exact ⟨(ledger h₀).handle_eq x held, Iff.rfl⟩

private theorem Ledger.drop (ledger : ∀ h, e.Ledger h) (h₀ h : Handle) :
    (e.step (.drop h₀)).Ledger h := by
  have parted (y : Owned m.Settings) : Function.update e.pins h₀ none h₀ ≠ some y := by
    rw [Function.update_self]
    exact Option.some_ne_none y |>.symm
  rcases drop_cases (ledger h₀).handle_eq with ⟨_, leaves⟩ | ⟨x, held, unreleased, asks⟩
  · rw [leaves]
    refine (ledger h).idle (fun y kept => ?_) Iff.rfl rfl Iff.rfl Iff.rfl Iff.rfl (Nat.le_refl _)
    by_cases here : h = h₀
    · subst here
      exact absurd kept (parted y)
    · change Function.update e.pins h₀ none h = some y at kept
      rw [Function.update_of_ne here] at kept
      exact (ledger h).holder y kept
  · refine Ledger.ask ledger held ?_ ?_ ?_ ?_ ?_ ?_ unreleased h
    all_goals rw [asks]
    · exact fun j other => Function.update_of_ne other _ _
    · exact fun y kept => absurd kept (parted y)

theorem Ledger.step (ledger : ∀ h, e.Ledger h) (d : Dealing m) (h : Handle) :
    (e.step d).Ledger h := by
  cases d with
  | command k => exact (ledger h).command k
  | own c => exact Ledger.own ledger c h
  | operate h₀ k about keeps => exact Ledger.operate ledger about keeps h
  | giveBack h₀ => exact Ledger.giveBack ledger h₀ h
  | drop h₀ => exact Ledger.drop ledger h₀ h
  | drift f drawn =>
    exact (ledger h).idle (ledger h).holder Iff.rfl rfl Iff.rfl Iff.rfl Iff.rfl (Nat.le_add_right _ _)

theorem Ledger.run (ledger : ∀ h, e.Ledger h) (dealings : List (Dealing m)) (h : Handle) :
    (e.run dealings).Ledger h := by
  induction dealings generalizing e with
  | nil => exact ledger h
  | cons d dealings ih => exact ih (Ledger.step ledger d)

/-- A handle that was drawn before is not made live. -/
theorem Ledger.live_before (l : e.Ledger h) (known : e.Known h) {k : m.Command}
    (live : (m.perform k e.desk).state.Live h) : e.desk.Live h := by
  cases (m.course k e.desk).shift with
  | issued _ _ _ _ _ keys =>
    refine ((Desk.live_of_issued keys h).mp live).resolve_right ?_
    rintro rfl
    exact Nat.lt_irrefl _ (l.below known)
  | returned _ _ _ _ _ keys => exact ((Desk.live_of_returned keys h).mp live).1
  | still _ _ _ keys => exact (live_of_keys keys h).mp live

end Peripherals.Estate

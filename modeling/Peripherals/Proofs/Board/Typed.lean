import Peripherals.Proofs.Board.Demand
/-!
Modules that are requested by kind, at boards whose offers build modules of any kind. Main statement:
such a request hands out a module of the kind and is one more use of it, or it fails and leaves the uses
of every kind as they were; what it has to take back, because it turned out to be of another kind, is
always taken back.
-/

set_option autoImplicit false

namespace Peripherals.Board

variable {τ : Type} {s : Board τ × τ} {kind : ModuleKind} {m : ModuleRef}

/-- What a request for a kind comes to: the module that was built for it, or else the one that the offer
builds now. The offer may build what it likes. -/
inductive Yields (s : Board τ × τ) (kind : ModuleKind) : ModuleRef → Prop
  | old {o : Offer τ} {i : Installed} (offered : s.1.offers.get? kind = some o)
    (built : s.1.installed.get? kind = some i) : Yields s kind i.module
  | new {o : Offer τ} (offered : s.1.offers.get? kind = some o)
    (unbuilt : s.1.installed.get? kind = none) : Yields s kind (o.build s.2).1

private theorem yields_iff_offered (s : Board τ × τ) (kind : ModuleKind) :
    (∃ m, Yields s kind m) ↔ kind ∈ s.1.available := by
  rw [mem_available_iff]
  constructor
  · rintro ⟨m, yields⟩
    cases yields with
    | old offered | new offered => exact ⟨_, offered⟩
  · rintro ⟨o, offered⟩
    cases built : s.1.installed.get? kind with
    | none => exact ⟨_, .new offered built⟩
    | some i => exact ⟨_, .old offered built⟩

/-- The refusal of a module that turned out to be of another kind. -/
def mismatch (kind : ModuleKind) (m : ModuleRef) : Fault :=
  .notSupported ("module '" ++ kind.name ++ "' returned " ++ m.kind.name ++ " ops")

/-! ### Asking by name and taking back -/

private theorem Yields.request (yields : Yields s kind m) :
    (Board.request kind.name s).answer = .ok m ∧ ∃ t, (Board.request kind.name s).state =
      (s.1.seat kind ⟨m, s.1.useCount kind + 1⟩, t) := by
  have named := ModuleKind.ofName?_name kind
  cases yields with
  | @old o i offered built =>
    have so_far : s.1.useCount kind = i.uses := by simp [useCount, built]
    obtain ⟨answer, state⟩ := request_again (offerNamed?_some named offered) built
    rw [so_far]
    exact ⟨answer, _, state⟩
  | @new o offered unbuilt =>
    have none_yet : s.1.useCount kind = 0 := by simp [useCount, unbuilt]
    obtain ⟨answer, state⟩ := request_first (offerNamed?_some named offered) unbuilt
    rw [none_yet]
    exact ⟨answer, _, state⟩

private theorem Yields.takenBack (yields : Yields s kind m) :
    (releaseAs kind m (Board.request kind.name s).state).answer = .ok () ∧
      ∃ t, (releaseAs kind m (Board.request kind.name s).state).state =
        (s.1.seat kind ⟨m, s.1.useCount kind⟩, t) := by
  obtain ⟨-, t, state⟩ := yields.request
  rw [state]
  have used : (s.1.seat kind ⟨m, s.1.useCount kind + 1⟩).installed.get? kind =
      some ⟨m, s.1.useCount kind + 1⟩ := (installed_seat _ _ _ _).trans (if_pos rfl)
  obtain ⟨answer, back⟩ :=
    releaseAs_own (s := (s.1.seat kind ⟨m, s.1.useCount kind + 1⟩, t)) used
  rw [seat_seat] at back
  exact ⟨answer, t, back⟩

/-! ### Asking by kind -/

/-- All that can come of a request by kind. -/
inductive KindCourse (s : Board τ × τ) (kind : ModuleKind) :
    Except Fault ModuleRef → Board τ × τ → Prop
  | absent (unoffered : kind ∉ s.1.available) :
    KindCourse s kind (.error (.moduleNotAvailable kind.name)) s
  | granted {m : ModuleRef} {t : τ} (yields : Yields s kind m) (own : m.kind = kind) :
    KindCourse s kind (.ok m) (s.1.seat kind ⟨m, s.1.useCount kind + 1⟩, t)
  | mismatched {m : ModuleRef} {t : τ} (yields : Yields s kind m) (other : m.kind ≠ kind) :
    KindCourse s kind (.error (mismatch kind m)) (s.1.seat kind ⟨m, s.1.useCount kind⟩, t)

private theorem requestKind_absent (unoffered : kind ∉ s.1.available) :
    requestKind kind s = ⟨.error (.moduleNotAvailable kind.name), [], s⟩ := by
  have none_named : s.1.offerNamed? kind.name = none := by
    refine offerNamed?_none fun kind' named => ?_
    rw [ModuleKind.ofName?_name] at named
    obtain rfl := Option.some.inj named
    by_contra present
    obtain ⟨o, offered⟩ := Option.ne_none_iff_exists'.mp present
    exact unoffered ((mem_available_iff _ _).mpr ⟨o, offered⟩)
  rw [requestKind, Action.bind_apply, request_absent none_named]

private theorem Yields.requestKind_own (yields : Yields s kind m) (own : m.kind = kind) :
    requestKind kind s = Board.request kind.name s := by
  have answer := yields.request.1
  rw [requestKind, Action.bind_apply, answer]
  simp only [if_pos own, Action.pure_apply, List.append_nil]
  rw [← answer]

private theorem Yields.requestKind_other (yields : Yields s kind m) (other : m.kind ≠ kind) :
    requestKind kind s = ⟨.error (mismatch kind m),
      (Board.request kind.name s).events ++ (releaseAs kind m (Board.request kind.name s).state).events,
      (releaseAs kind m (Board.request kind.name s).state).state⟩ := by
  rw [requestKind, Action.bind_apply, yields.request.1]
  simp only [if_neg other, Action.bind_apply, Action.attempt_apply, yields.takenBack.1,
    Action.fail_apply, List.append_nil]
  rfl

private theorem kindCourse (s : Board τ × τ) (kind : ModuleKind) :
    KindCourse s kind (requestKind kind s).answer (requestKind kind s).state := by
  by_cases offered : kind ∈ s.1.available
  · obtain ⟨m, yields⟩ := (yields_iff_offered s kind).mpr offered
    by_cases own : m.kind = kind
    · obtain ⟨answer, t, state⟩ := yields.request
      rw [yields.requestKind_own own, answer, state]
      exact .granted yields own
    · obtain ⟨-, t, state⟩ := yields.takenBack
      rw [yields.requestKind_other own, state]
      exact .mismatched yields own
  · rw [requestKind_absent offered]
    exact .absent offered

namespace KindCourse

variable {s' : Board τ × τ} {answer : Except Fault ModuleRef}

private theorem useCount (course : KindCourse s kind answer s') (kind' : ModuleKind) :
    s'.1.useCount kind' =
      s.1.useCount kind' + (if kind' = kind ∧ answer.isOk = true then 1 else 0) := by
  cases course with
  | absent => simp [Except.isOk, Except.toBool]
  | granted | mismatched =>
    rw [useCount_seat]
    by_cases same : kind' = kind
    · simp [same, Except.isOk, Except.toBool]
    · simp [same]

private theorem elsewhere (course : KindCourse s kind answer s') {kind' : ModuleKind}
    (other : kind' ≠ kind) :
    s'.1.installed.get? kind' = s.1.installed.get? kind' := by
  cases course with
  | absent => rfl
  | granted | mismatched => exact (installed_seat _ _ _ _).trans (if_neg other)

end KindCourse

/-! ### Warnings -/

/-- The event is no warning. -/
def Calm (e : Event) : Prop :=
  e.level ≠ .warn

private theorem install_calm (kind : ModuleKind) (o : Offer τ) : Action.Reports Calm
    (install kind o) := by
  rintro ⟨b, t⟩ e reported
  simp only [install] at reported
  cases built : b.installed.get? kind with
  | some i => simp [built] at reported
  | none =>
    rw [built] at reported
    obtain rfl := List.mem_singleton.mp reported
    simp [Calm]

private theorem request_calm (name : String) :
    Action.Reports Calm (Board.request name : Action Fault (Board τ × τ) ModuleRef) := by
  refine Action.Reports.get.bind fun s => ?_
  split
  · exact .fail _
  · next kind o _ =>
    exact (install_calm kind o).bind fun i => (Action.Reports.modify _).bind fun _ =>
      (Action.Reports.note (by simp [Calm])).bind fun _ => .pure _

private theorem releaseAs_calm (kind : ModuleKind) (m : ModuleRef) :
    Action.Reports Calm (releaseAs kind m : Action Fault (Board τ × τ) Unit) := by
  refine Action.Reports.get.bind fun s => ?_
  split
  · exact .fail _
  · next i _ =>
    split
    · exact .fail _
    · refine (Action.Reports.modify _).bind fun _ => (Action.Reports.note (by simp [Calm])).bind
        fun _ => ?_
      split
      · exact .note (by simp [Calm])
      · exact .pure ()

private theorem requestKind_calm (s : Board τ × τ) (kind : ModuleKind) :
    ∀ e ∈ (requestKind kind s).events, Calm e := by
  intro e reported
  by_cases offered : kind ∈ s.1.available
  · obtain ⟨m, yields⟩ := (yields_iff_offered s kind).mpr offered
    by_cases own : m.kind = kind
    · rw [yields.requestKind_own own] at reported
      exact request_calm kind.name s e reported
    · rw [yields.requestKind_other own] at reported
      rcases List.mem_append.mp reported with asked | taken_back
      · exact request_calm kind.name s e asked
      · exact releaseAs_calm kind m _ e taken_back
  · rw [requestKind_absent offered] at reported
    cases reported

/-- A module is requested by kind, whatever the offers of the board build and whatever has happened to the
board before. Either the module that the request comes to is of the kind, is handed out and has one more
use; or nothing is handed out and the uses of every kind are what they were: the kind is not on offer, or
the module is of another kind and is taken back under the kind that was asked for. That never fails and
is never warned of, and no other kind than that loses its module or any use of it. -/
theorem requestKind_all_or_nothing (s : Board τ × τ) (kind : ModuleKind) :
    let r := requestKind kind s
    (∀ m, r.answer = .ok m ↔ Yields s kind m ∧ m.kind = kind) ∧
    (∀ m, r.answer = .ok m → ∀ kind',
      r.state.1.useCount kind' = s.1.useCount kind' + if kind' = kind then 1 else 0) ∧
    (∀ f, r.answer = .error f →
      (f = .moduleNotAvailable kind.name ∧ kind ∉ s.1.available ∨
        ∃ m, f = mismatch kind m ∧ Yields s kind m ∧ m.kind ≠ kind) ∧
      ∀ kind', r.state.1.useCount kind' = s.1.useCount kind') ∧
    (∀ m, Yields s kind m → m.kind ≠ kind →
      let back := releaseAs kind m (Board.request kind.name s).state
      back.answer = .ok () ∧ r.state = back.state) ∧
    (∀ e ∈ r.events, e.level ≠ .warn) ∧
    ∀ kind', kind' ≠ kind → r.state.1.installed.get? kind' = s.1.installed.get? kind' := by
  intro r
  have course : KindCourse s kind r.answer r.state := kindCourse s kind
  refine ⟨fun m => ⟨fun granted => ?_, fun ⟨yields, own⟩ => ?_⟩, fun m granted kind' => ?_,
    fun f failed => ⟨?_, fun kind' => ?_⟩, fun m yields other => ⟨yields.takenBack.1, ?_⟩,
    requestKind_calm s kind, fun kind' other => course.elsewhere other⟩
  · rw [granted] at course
    generalize r.state = s' at course
    cases course with
    | granted yields own => exact ⟨yields, own⟩
  · exact (congrArg Outcome.answer (yields.requestKind_own own)).trans yields.request.1
  · rw [course.useCount kind', granted]
    simp [Except.isOk, Except.toBool]
  · rw [failed] at course
    generalize r.state = s' at course
    cases course with
    | absent unoffered => exact .inl ⟨rfl, unoffered⟩
    | mismatched yields other => exact .inr ⟨_, rfl, yields, other⟩
  · rw [course.useCount kind', failed]
    simp [Except.isOk, Except.toBool]
  · exact congrArg Outcome.state (yields.requestKind_other other)

/-- An offer of lines that builds an analog module, after it was asked for by name: the module is in use,
and it is refused again without the loss of that use. -/
example :
    let wrong : Offer Unit := ⟨"mock", fun t => (⟨.adc, 0⟩, t)⟩
    let b : Board Unit := (⟨.generic, ∅, ∅⟩ : Board Unit).offer .gpio wrong
    let s := (Board.request "gpio" (b, ())).state
    (requestKind .gpio s).answer = .error (.notSupported "module 'gpio' returned adc ops") ∧
      (requestKind .gpio s).state.1.useCount .gpio = 1 := by
  decide +kernel

end Peripherals.Board

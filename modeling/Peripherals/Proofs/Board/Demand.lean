import Mathlib.Data.List.Basic
import Peripherals.Board.Basic
import Peripherals.Proofs.Action
/-!
Demands at a board: it is asked for modules and given them back, by anyone and in any order. Main
statements: `Course` lists all that can come of a demand, and from it follow when a demand is granted
and what it makes of the uses.
-/

set_option autoImplicit false

namespace Peripherals.Board

variable {τ : Type}

/-! ### Demands -/

/-- What can be asked of a board. Any module can be offered back, whoever built it. -/
inductive Demand where
  | request (name : String)
  | requestKind (kind : ModuleKind)
  | release (m : ModuleRef)

inductive Answer where
  | granted (m : ModuleRef)
  | returned
  deriving DecidableEq

def perform : Demand → Action Fault (Board τ × τ) Answer
  | .request name => .granted <$> request name
  | .requestKind kind => .granted <$> requestKind kind
  | .release m => (fun _ => .returned) <$> release m

def Demand.wanted? : Demand → Option ModuleKind
  | .request name => ModuleKind.ofName? name
  | .requestKind kind => some kind
  | .release _ => none

def Demand.given? : Demand → Option ModuleKind
  | .release m => some m.kind
  | _ => none

private theorem Demand.given?_eq_none (d : Demand) {kind : ModuleKind}
    (wanted : d.wanted? = some kind) :
    d.given? = none := by
  cases d with
  | request name | requestKind kind' => rfl
  | release m => cases wanted

/-- Every offer builds modules of its kind, and so did those that were built already. -/
structure Kinded (b : Board τ) : Prop where
  offers : ∀ kind o, b.offers.get? kind = some o → ∀ t, (o.build t).1.kind = kind
  installed : ∀ kind i, b.installed.get? kind = some i → i.module.kind = kind

def seat (b : Board τ) (kind : ModuleKind) (i : Installed) : Board τ :=
  { b with installed := b.installed.put kind i }

theorem installed_seat (b : Board τ) (kind kind' : ModuleKind) (i : Installed) :
    (b.seat kind i).installed.get? kind' =
      if kind' = kind then some i else b.installed.get? kind' :=
  Assoc.get?_put _ _ _ _

theorem useCount_seat (b : Board τ) (kind kind' : ModuleKind) (i : Installed) :
    (b.seat kind i).useCount kind' = if kind' = kind then i.uses else b.useCount kind' := by
  simp only [useCount, installed_seat]
  split <;> rfl

theorem seat_seat (b : Board τ) (kind : ModuleKind) (i j : Installed) :
    ((b.seat kind i).seat kind j) = b.seat kind j := by
  have twice (m : Assoc ModuleKind Installed) : (m.put kind i).put kind j = m.put kind j := by
    simp [Assoc.put, Assoc.erase, List.filter_filter]
  exact congrArg (fun m => { b with installed := m }) (twice b.installed)

/-! ### Courses -/

/-- All that can come of a demand. -/
inductive Course (s : Board τ × τ) : Demand → Except Fault Answer → Board τ × τ → Prop
  | absent {d : Demand} {f : Fault} (request : d.given? = none)
    (absent : ∀ kind, d.wanted? = some kind → s.1.offers.get? kind = none) :
    Course s d (.error f) s
  | first {d : Demand} {kind : ModuleKind} {o : Offer τ} (wanted : d.wanted? = some kind)
    (offered : s.1.offers.get? kind = some o) (unbuilt : s.1.installed.get? kind = none) :
    Course s d (.ok (.granted (o.build s.2).1))
      (s.1.seat kind ⟨(o.build s.2).1, 1⟩, (o.build s.2).2)
  | again {d : Demand} {kind : ModuleKind} {o : Offer τ} {i : Installed}
    (wanted : d.wanted? = some kind) (offered : s.1.offers.get? kind = some o)
    (built : s.1.installed.get? kind = some i) :
    Course s d (.ok (.granted i.module)) (s.1.seat kind ⟨i.module, i.uses + 1⟩, s.2)
  | refused {m : ModuleRef} {f : Fault}
    (foreign : ∀ i, s.1.installed.get? m.kind = some i → i.module = m → i.uses = 0) :
    Course s (.release m) (.error f) s
  | returned {m : ModuleRef} {uses : Nat}
    (used : s.1.installed.get? m.kind = some ⟨m, uses + 1⟩) :
    Course s (.release m) (.ok .returned) (s.1.seat m.kind ⟨m, uses⟩, s.2)

theorem offerNamed?_none {b : Board τ} {name : String}
    (absent : ∀ kind, ModuleKind.ofName? name = some kind → b.offers.get? kind = none) :
    b.offerNamed? name = none := by
  unfold offerNamed?
  cases named : ModuleKind.ofName? name with
  | none => rfl
  | some kind => simp [absent kind named]

theorem offerNamed?_some {b : Board τ} {name : String} {kind : ModuleKind} {o : Offer τ}
    (named : ModuleKind.ofName? name = some kind) (offered : b.offers.get? kind = some o) :
    b.offerNamed? name = some (kind, o) := by
  simp [offerNamed?, named, offered]

theorem request_absent {s : Board τ × τ} {name : String} (absent : s.1.offerNamed? name = none) :
    request name s = ⟨.error (.moduleNotAvailable name), [], s⟩ := by
  simp only [request, Action.bind_apply, Action.get_apply, absent, Action.fail_apply]
  rfl

theorem request_first {s : Board τ × τ} {name : String} {kind : ModuleKind} {o : Offer τ}
    (offered : s.1.offerNamed? name = some (kind, o)) (unbuilt : s.1.installed.get? kind = none) :
    (request name s).answer = .ok (o.build s.2).1 ∧
      (request name s).state = (s.1.seat kind ⟨(o.build s.2).1, 1⟩, (o.build s.2).2) := by
  have built : install kind o s = ⟨.ok ⟨(o.build s.2).1, 0⟩,
      [⟨.info, "Creating module", [("module", kind.name), ("backend", o.backend)]⟩],
      (s.1.seat kind ⟨(o.build s.2).1, 0⟩, (o.build s.2).2)⟩ := by
    simp only [install, unbuilt]
    rfl
  simp only [request, Action.bind_apply, Action.get_apply, offered, built, setUses]
  refine ⟨rfl, ?_⟩
  exact congrArg (·, _) (seat_seat _ _ _ _)

theorem request_again {s : Board τ × τ} {name : String} {kind : ModuleKind} {o : Offer τ}
    {i : Installed} (offered : s.1.offerNamed? name = some (kind, o))
    (built : s.1.installed.get? kind = some i) :
    (request name s).answer = .ok i.module ∧
      (request name s).state = (s.1.seat kind ⟨i.module, i.uses + 1⟩, s.2) := by
  have found : install kind o s = ⟨.ok i, [], s⟩ := by
    simp only [install, built]
  simp only [request, Action.bind_apply, Action.get_apply, offered, found, setUses]
  exact ⟨rfl, rfl⟩

theorem releaseAs_foreign {s : Board τ × τ} {kind : ModuleKind} {m : ModuleRef}
    (foreign : ∀ i, s.1.installed.get? kind = some i → i.module = m → i.uses = 0) :
    releaseAs kind m s = ⟨.error (.moduleNotRequested kind.name), [], s⟩ := by
  simp only [releaseAs, Action.bind_apply, Action.get_apply]
  cases found : s.1.installed.get? kind with
  | none => rfl
  | some i =>
    have refusal : i.uses = 0 ∨ i.module ≠ m := by
      by_cases own : i.module = m
      · exact .inl (foreign i found own)
      · exact .inr own
    simp only [if_pos refusal]
    rfl

theorem releaseAs_own {s : Board τ × τ} {kind : ModuleKind} {m : ModuleRef} {uses : Nat}
    (used : s.1.installed.get? kind = some ⟨m, uses + 1⟩) :
    (releaseAs kind m s).answer = .ok () ∧
      (releaseAs kind m s).state = (s.1.seat kind ⟨m, uses⟩, s.2) := by
  have accepted : ¬ (uses + 1 = 0 ∨ m ≠ m) := by simp
  simp only [releaseAs, Action.bind_apply, Action.get_apply, used, if_neg accepted]
  simp only [Nat.add_eq_right]
  by_cases last : uses = 0
  · simp only [last, if_true]
    exact ⟨rfl, rfl⟩
  · simp only [last, if_false]
    exact ⟨rfl, rfl⟩

namespace Course

variable {s s' : Board τ × τ} {d : Demand} {answer : Except Fault Answer}

theorem of_error {f : Fault} (course : Course s d (.error f) s') : s' = s := by
  cases course <;> rfl

theorem offers_eq (course : Course s d answer s') : s'.1.offers = s.1.offers := by
  cases course <;> rfl

theorem granted (kinded : s.1.Kinded) {m : ModuleRef}
    (course : Course s d (.ok (.granted m)) s') :
    d.wanted? = some m.kind ∧ ∃ uses, s'.1.installed.get? m.kind = some ⟨m, uses⟩ := by
  cases course with
  | @first _ kind o wanted offered unbuilt =>
    have own : (o.build s.2).1.kind = kind := kinded.offers kind o offered s.2
    rw [own]
    exact ⟨wanted, 1, (installed_seat _ _ _ _).trans (if_pos rfl)⟩
  | @again _ kind o i wanted offered built =>
    have own : i.module.kind = kind := kinded.installed kind i built
    rw [own]
    exact ⟨wanted, i.uses + 1, (installed_seat _ _ _ _).trans (if_pos rfl)⟩

/-- A module that was built stays the module of its kind. -/
theorem stays (course : Course s d answer s') {kind : ModuleKind} {m : ModuleRef} {uses : Nat}
    (built : s.1.installed.get? kind = some ⟨m, uses⟩) :
    ∃ uses', s'.1.installed.get? kind = some ⟨m, uses'⟩ := by
  cases course with
  | absent | refused => exact ⟨uses, built⟩
  | @first _ kind' o wanted offered unbuilt =>
    have other : kind ≠ kind' := by
      rintro rfl
      rw [unbuilt] at built
      cases built
    exact ⟨uses, (installed_seat _ _ _ _).trans ((if_neg other).trans built)⟩
  | @again _ kind' o i wanted offered built' =>
    by_cases same : kind = kind'
    · subst same
      obtain rfl := Option.some.inj (built'.symm.trans built)
      exact ⟨uses + 1, (installed_seat _ _ _ _).trans (if_pos rfl)⟩
    · exact ⟨uses, (installed_seat _ _ _ _).trans ((if_neg same).trans built)⟩
  | @returned m' uses' used =>
    by_cases same : kind = m'.kind
    · subst same
      obtain ⟨rfl, _⟩ := Installed.mk.inj (Option.some.inj (used.symm.trans built))
      exact ⟨uses', (installed_seat _ _ _ _).trans (if_pos rfl)⟩
    · exact ⟨uses, (installed_seat _ _ _ _).trans ((if_neg same).trans built)⟩

theorem kinded (course : Course s d answer s') (kinded : s.1.Kinded) : s'.1.Kinded := by
  refine ⟨fun kind o offered => kinded.offers kind o (course.offers_eq ▸ offered), ?_⟩
  have seated {kind : ModuleKind} {i : Installed} (own : i.module.kind = kind) :
      ∀ kind' j, (s.1.seat kind i).installed.get? kind' = some j → j.module.kind = kind' := by
    intro kind' j found
    rw [installed_seat] at found
    by_cases same : kind' = kind
    · rw [if_pos same] at found
      rw [← Option.some.inj found, same]
      exact own
    · rw [if_neg same] at found
      exact kinded.installed kind' j found
  cases course with
  | absent | refused => exact kinded.installed
  | first wanted offered unbuilt => exact seated (kinded.offers _ _ offered _)
  | again wanted offered built =>
    have own := kinded.installed _ _ built
    exact seated own
  | returned used => exact seated rfl

/-- A granted demand is one more use of its kind, a module given back one less. -/
theorem useCount (course : Course s d answer s') (kind : ModuleKind) :
    s'.1.useCount kind + (if d.given? = some kind ∧ answer.isOk = true then 1 else 0) =
      s.1.useCount kind + (if d.wanted? = some kind ∧ answer.isOk = true then 1 else 0) := by
  cases course with
  | absent | refused => simp [Except.isOk, Except.toBool]
  | @first _ kind' o wanted offered unbuilt =>
    have given := d.given?_eq_none wanted
    have none_yet : s.1.useCount kind' = 0 := by simp [Board.useCount, unbuilt]
    rw [useCount_seat, given, wanted]
    by_cases same : kind = kind'
    · subst same
      simp [none_yet, Except.isOk, Except.toBool]
    · simp [same, Ne.symm same]
  | @again _ kind' o i wanted offered built =>
    have given := d.given?_eq_none wanted
    have so_far : s.1.useCount kind' = i.uses := by simp [Board.useCount, built]
    rw [useCount_seat, given, wanted]
    by_cases same : kind = kind'
    · subst same
      simp [so_far, Except.isOk, Except.toBool]
    · simp [same, Ne.symm same]
  | @returned m uses used =>
    have so_far : s.1.useCount m.kind = uses + 1 := by simp [Board.useCount, used]
    rw [useCount_seat]
    by_cases same : kind = m.kind
    · subst same
      simp [so_far, Demand.given?, Demand.wanted?, Except.isOk, Except.toBool]
    · simp [same, Ne.symm same, Demand.given?, Demand.wanted?]

end Course

private theorem course_of_request (s : Board τ × τ) {d : Demand} {name : String}
    (wanted : d.wanted? = ModuleKind.ofName? name) (given : d.given? = none) :
    Course s d ((Answer.granted <$> request name) s).answer
      ((Answer.granted <$> request name) s).state := by
  rw [Action.map_apply]
  by_cases absent : ∀ kind, ModuleKind.ofName? name = some kind → s.1.offers.get? kind = none
  · rw [request_absent (offerNamed?_none absent)]
    exact .absent given fun kind asks => absent kind (wanted ▸ asks)
  · -- The name is that of a kind on offer, whose module is there or is not.
    simp only [not_forall] at absent
    obtain ⟨kind, named, present⟩ := absent
    obtain ⟨o, offered⟩ := Option.ne_none_iff_exists'.mp present
    have asks : d.wanted? = some kind := wanted.trans named
    cases built : s.1.installed.get? kind with
    | none =>
      obtain ⟨answer, state⟩ := request_first (offerNamed?_some named offered) built
      rw [answer, state]
      exact .first asks offered built
    | some i =>
      obtain ⟨answer, state⟩ := request_again (offerNamed?_some named offered) built
      rw [answer, state]
      exact .again asks offered built

theorem requestKind_apply {s : Board τ × τ} (kinded : s.1.Kinded) (kind : ModuleKind) :
    (requestKind kind s).answer = (request kind.name s).answer ∧
      (requestKind kind s).state = (request kind.name s).state := by
  cases granted : (request kind.name s).answer with
  | error f => exact Action.bind_error _ granted
  | ok m =>
    have course := course_of_request s (d := .request kind.name) rfl rfl
    rw [Action.map_apply, granted] at course
    obtain ⟨wanted, _⟩ := course.granted kinded
    have own : m.kind = kind := by
      have named : ModuleKind.ofName? kind.name = some m.kind := wanted
      rw [ModuleKind.ofName?_name] at named
      exact (Option.some.inj named).symm
    refine ⟨(Action.bind_ok granted).1.trans ?_, (Action.bind_ok granted).2.trans ?_⟩
    · rw [if_pos own]
      rfl
    · rw [if_pos own]
      rfl

/-- Every demand takes one of the courses. -/
theorem course {s : Board τ × τ} (kinded : s.1.Kinded) (d : Demand) :
    Course s d (perform d s).answer (perform d s).state := by
  cases d with
  | request name => exact course_of_request s rfl rfl
  | requestKind kind =>
    obtain ⟨answer, state⟩ := requestKind_apply kinded kind
    have same := course_of_request s (d := .requestKind kind) (ModuleKind.ofName?_name kind).symm rfl
    rw [Action.map_apply, ← answer, ← state] at same
    change Course s (.requestKind kind) ((Answer.granted <$> requestKind kind) s).answer
      ((Answer.granted <$> requestKind kind) s).state
    rw [Action.map_apply]
    exact same
  | release m =>
    change Course s (.release m) (((fun _ => Answer.returned) <$> releaseAs m.kind m) s).answer
      (((fun _ => Answer.returned) <$> releaseAs m.kind m) s).state
    rw [Action.map_apply]
    by_cases foreign : ∀ i, s.1.installed.get? m.kind = some i → i.module = m → i.uses = 0
    · rw [releaseAs_foreign foreign]
      exact .refused foreign
    · simp only [not_forall] at foreign
      obtain ⟨⟨_, uses⟩, found, rfl, positive⟩ := foreign
      obtain ⟨n, rfl⟩ := Nat.exists_eq_succ_of_ne_zero positive
      obtain ⟨answer, state⟩ := releaseAs_own found
      rw [answer, state]
      exact .returned found

/-! ### When a demand is granted -/

private theorem isAvailable_iff (b : Board τ) (name : String) :
    b.isAvailable name = true ↔
      ∃ kind o, ModuleKind.ofName? name = some kind ∧ b.offers.get? kind = some o := by
  unfold isAvailable
  cases ModuleKind.ofName? name with
  | none => simp
  | some kind => simp [Assoc.contains, Option.isSome_iff_exists]

theorem mem_available_iff (b : Board τ) (kind : ModuleKind) :
    kind ∈ b.available ↔ ∃ o, b.offers.get? kind = some o := by
  simp [available, List.mem_filter, ModuleKind.mem_all, Assoc.contains, Option.isSome_iff_exists]

private theorem name_of_ofName? {name : String} {kind : ModuleKind}
    (named : ModuleKind.ofName? name = some kind) : kind.name = name := by
  have same := List.find?_some named
  simpa using same

private theorem Course.isOk_iff {s s' : Board τ × τ} {d : Demand} {answer : Except Fault Answer}
    (course : Course s d answer s') (request : d.given? = none) :
    answer.isOk = true ↔ ∃ kind o, d.wanted? = some kind ∧ s.1.offers.get? kind = some o := by
  cases course with
  | absent _ absent =>
    refine ⟨fun ok => (nomatch (ok : false = true)), ?_⟩
    rintro ⟨kind, o, wanted, offered⟩
    rw [absent kind wanted] at offered
    cases offered
  | first wanted offered unbuilt => exact ⟨fun _ => ⟨_, _, wanted, offered⟩, fun _ => rfl⟩
  | again wanted offered built => exact ⟨fun _ => ⟨_, _, wanted, offered⟩, fun _ => rfl⟩
  | refused foreign => cases request
  | returned used => cases request

private theorem Course.release_isOk_iff {s s' : Board τ × τ} {m : ModuleRef}
    {answer : Except Fault Answer}
    (course : Course s (.release m) answer s') :
    answer.isOk = true ↔ ∃ uses, s.1.installed.get? m.kind = some ⟨m, uses + 1⟩ := by
  cases course with
  | absent request _ => cases request
  | first wanted _ _ => cases wanted
  | again wanted _ _ => cases wanted
  | refused foreign =>
    refine ⟨fun ok => (nomatch (ok : false = true)), ?_⟩
    rintro ⟨uses, found⟩
    exact absurd (foreign _ found rfl) (Nat.succ_ne_zero uses)
  | @returned _ uses used => exact ⟨fun _ => ⟨uses, used⟩, fun _ => rfl⟩

theorem request_isOk_iff {s : Board τ × τ} (kinded : s.1.Kinded) (name : String) :
    (perform (.request name) s).answer.isOk = true ↔ s.1.isAvailable name = true :=
  ((course kinded (.request name)).isOk_iff rfl).trans (isAvailable_iff _ _).symm

theorem isAvailable_iff_name (b : Board τ) (name : String) :
    b.isAvailable name = true ↔ ∃ kind ∈ b.available, kind.name = name := by
  rw [isAvailable_iff]
  constructor
  · rintro ⟨kind, o, named, offered⟩
    exact ⟨kind, (mem_available_iff _ _).mpr ⟨o, offered⟩, name_of_ofName? named⟩
  · rintro ⟨kind, member, rfl⟩
    obtain ⟨o, offered⟩ := (mem_available_iff _ _).mp member
    exact ⟨kind, o, ModuleKind.ofName?_name kind, offered⟩

theorem requestKind_isOk_iff {s : Board τ × τ} (kinded : s.1.Kinded) (kind : ModuleKind) :
    (perform (.requestKind kind) s).answer.isOk = true ↔ kind ∈ s.1.available := by
  rw [(course kinded (.requestKind kind)).isOk_iff rfl, mem_available_iff]
  constructor
  · rintro ⟨kind', o, wanted, offered⟩
    obtain rfl := Option.some.inj wanted
    exact ⟨o, offered⟩
  · rintro ⟨o, offered⟩
    exact ⟨kind, o, rfl, offered⟩

theorem release_isOk_iff {s : Board τ × τ} (kinded : s.1.Kinded) (m : ModuleRef) :
    (perform (.release m) s).answer.isOk = true ↔
      0 < s.1.useCount m.kind ∧ ∃ uses, s.1.installed.get? m.kind = some ⟨m, uses⟩ := by
  rw [(course kinded (.release m)).release_isOk_iff]
  constructor
  · rintro ⟨uses, found⟩
    refine ⟨?_, uses + 1, found⟩
    rw [useCount, found]
    exact Nat.succ_pos uses
  · rintro ⟨positive, uses, found⟩
    rw [useCount, found] at positive
    obtain ⟨n, rfl⟩ := Nat.exists_eq_succ_of_ne_zero (Nat.pos_iff_ne_zero.mp positive)
    exact ⟨n, found⟩

/-- A module that is taken back is one use less of its kind. -/
theorem useCount_release {s : Board τ × τ} (kinded : s.1.Kinded) {m : ModuleRef}
    (ok : (perform (.release m) s).answer.isOk = true) (kind : ModuleKind) :
    (perform (.release m) s).state.1.useCount kind + (if kind = m.kind then 1 else 0) =
      s.1.useCount kind := by
  have counts := (course kinded (.release m)).useCount kind
  simp only [Demand.given?, Demand.wanted?, ok, and_true, Option.some.injEq, reduceCtorEq, if_false,
    Nat.add_zero, eq_comm (a := m.kind)] at counts
  exact counts

end Peripherals.Board

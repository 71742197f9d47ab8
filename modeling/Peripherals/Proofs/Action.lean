import Peripherals.Action
/-!
Reasoning about actions. `Mirrors` says that one action does in a view of the state what another one
does in the state itself, and `Alongside` that two actions do the same from related states. Main
statements: both pass through sequencing, and what every step of a run keeps the run keeps.
-/

set_option autoImplicit false

namespace Peripherals.Action

variable {ε ε' σ σ' τ τ' α β γ : Type}

@[simp] theorem get_apply (s : σ) : (get : Action ε σ σ) s = ⟨.ok s, [], s⟩ := rfl

theorem zoom_apply (l : Lens σ τ) (x : Action ε τ α) (s : σ) :
    zoom l x s = ⟨(x (l.get s)).answer, (x (l.get s)).events, l.set (x (l.get s)).state s⟩ := rfl

@[simp] theorem attempt_apply (x : Action ε σ α) (s : σ) :
    (attempt x : Action ε' σ (Except ε α)) s = ⟨.ok (x s).answer, (x s).events, (x s).state⟩ := rfl

theorem map_apply (f : α → β) (x : Action ε σ α) (s : σ) :
    (f <$> x) s = ⟨(x s).answer.map f, (x s).events, (x s).state⟩ := by
  change (x >>= fun a => pure (f a)) s = _
  rw [bind_apply]
  rcases x s with ⟨_ | a, events, t⟩
  · rfl
  · simp [Except.map]

theorem bind_ok {x : Action ε σ α} {f : α → Action ε σ β} {s : σ} {a : α}
    (h : (x s).answer = .ok a) :
    ((x >>= f) s).answer = (f a (x s).state).answer ∧
      ((x >>= f) s).state = (f a (x s).state).state := by
  rw [bind_apply, h]
  exact ⟨rfl, rfl⟩

theorem bind_error {x : Action ε σ α} (f : α → Action ε σ β) {s : σ} {e : ε}
    (h : (x s).answer = .error e) :
    ((x >>= f) s).answer = .error e ∧ ((x >>= f) s).state = (x s).state := by
  rw [bind_apply, h]
  exact ⟨rfl, rfl⟩

theorem answer_of_bind_ok {x : Action ε σ α} {f : α → Action ε σ β} {s : σ} {b : β}
    (h : ((x >>= f) s).answer = .ok b) :
    ∃ a, (x s).answer = .ok a ∧ (f a (x s).state).answer = .ok b := by
  cases first : (x s).answer with
  | error e => cases (bind_error f first).1.symm.trans h
  | ok a => exact ⟨a, rfl, (bind_ok first).1.symm.trans h⟩

theorem answer_of_mapError_ok {k : ε → ε'} {x : Action ε σ α} {s : σ} {a : α}
    (h : (mapError k x s).answer = .ok a) : (x s).answer = .ok a := by
  change (x s).answer.mapError k = .ok a at h
  cases answer : (x s).answer with
  | error e =>
    rw [answer] at h
    cases h
  | ok b =>
    rw [answer] at h
    exact congrArg Except.ok (Except.ok.inj h)

/-! ### Views -/

/-- In the view `f` of the state, `y` does what `x` does in the state itself: it answers the same up
to `g`, reports the same and leaves the same behind. -/
def Mirrors (f : σ → τ) (g : α → β) (x : Action ε σ α) (y : Action ε τ β) : Prop :=
  ∀ s, y (f s) = ⟨(x s).answer.map g, (x s).events, f (x s).state⟩

namespace Mirrors

variable {f : σ → τ} {g : α → β}

theorem refl (x : Action ε σ α) : Mirrors id id x x := by
  intro s
  simp only [id]
  cases h : x s with
  | mk answer events state => cases answer <;> rfl

theorem pure (a : α) : Mirrors f g (Pure.pure a : Action ε σ α) (Pure.pure (g a)) :=
  fun _ => rfl

theorem fail (e : ε) : Mirrors f g (Action.fail e : Action ε σ α) (Action.fail e) :=
  fun _ => rfl

theorem note (e : Event) : Mirrors f id (Action.note e : Action ε σ Unit) (Action.note e) :=
  fun _ => rfl

theorem ofExcept (x : Except ε α) :
    Mirrors f id (Action.ofExcept x : Action ε σ α) (Action.ofExcept x) := by
  intro s
  cases x <;> rfl

theorem get : Mirrors f f (Action.get : Action ε σ σ) Action.get :=
  fun _ => rfl

theorem bind {δ : Type} {h : γ → δ} {x : Action ε σ α} {y : Action ε τ β} {k : α → Action ε σ γ}
    {k' : β → Action ε τ δ} (hx : Mirrors f g x y) (hk : ∀ a, Mirrors f h (k a) (k' (g a))) :
    Mirrors f h (x >>= k) (y >>= k') := by
  intro s
  simp only [bind_apply, hx s]
  cases (x s).answer with
  | error e => rfl
  | ok a =>
    have next := hk a (x s).state
    simp only [Except.map, next]

theorem zoom {l : Lens σ σ'} {l' : Lens τ τ'} {f' : σ' → τ'} {x : Action ε σ' α}
    {y : Action ε τ' β} (hx : Mirrors f' g x y) (hget : ∀ s, l'.get (f s) = f' (l.get s))
    (hset : ∀ t s, l'.set (f' t) (f s) = f (l.set t s)) :
    Mirrors f g (Action.zoom l x) (Action.zoom l' y) := by
  intro s
  simp only [zoom_apply, hget, hx (l.get s), hset]

theorem map {x : Action ε σ α} {y : Action ε τ α} (hx : Mirrors f id x y) (k : α → γ) :
    Mirrors f id (k <$> x) (k <$> y) :=
  hx.bind fun _ => pure _

theorem modify {k : σ → σ} {k' : τ → τ} (h : ∀ s, k' (f s) = f (k s)) :
    Mirrors f id (Action.modify k : Action ε σ Unit) (Action.modify k') := by
  intro s
  simp only [Action.modify, h, Except.map, id]

theorem mapError {x : Action ε σ α} {y : Action ε τ β} (hx : Mirrors f g x y) (k : ε → ε') :
    Mirrors f g (Action.mapError k x) (Action.mapError k y) := by
  intro s
  simp only [Action.mapError, hx s]
  cases (x s).answer <;> rfl

theorem attempt {x : Action ε σ α} {y : Action ε τ α} (hx : Mirrors f id x y) :
    Mirrors f id (Action.attempt x : Action ε' σ (Except ε α)) (Action.attempt y) := by
  intro s
  simp only [attempt_apply, hx s]
  cases (x s).answer <;> rfl

theorem beside {g : σ' → τ'} {x : Action ε (σ × σ') α} {y : Action ε (τ × τ') α}
    (hx : Mirrors (Prod.map f g) id x y) (v : σ') :
    Mirrors f (Prod.map id g) (Action.beside v x : Action ε' σ (Except ε α × σ'))
      (Action.beside (g v) y) := by
  intro s
  have step := hx (s, v)
  simp only [Action.beside]
  rw [show (f s, g v) = Prod.map f g (s, v) from rfl, step]
  cases (x (s, v)).answer <;> rfl

end Mirrors

/-! ### Side by side -/

/-- From related states two actions answer the same, report the same and leave related states. -/
def Alongside (R : σ → τ → Prop) (x : Action ε σ α) (y : Action ε τ α) : Prop :=
  ∀ s t, R s t →
    (x s).answer = (y t).answer ∧ (x s).events = (y t).events ∧ R (x s).state (y t).state

namespace Alongside

variable {R : σ → τ → Prop} {x : Action ε σ α} {y : Action ε τ α}

theorem ofExcept (a : Except ε α) :
    Alongside R (Action.ofExcept a : Action ε σ α) (Action.ofExcept a) :=
  fun _ _ related => ⟨rfl, rfl, related⟩

theorem pure (a : α) : Alongside R (Pure.pure a : Action ε σ α) (Pure.pure a) :=
  ofExcept (.ok a)

theorem fail (e : ε) : Alongside R (Action.fail e : Action ε σ α) (Action.fail e) :=
  ofExcept (.error e)

theorem note (e : Event) : Alongside R (Action.note e : Action ε σ Unit) (Action.note e) :=
  fun _ _ related => ⟨rfl, rfl, related⟩

theorem bind {k : α → Action ε σ β} {k' : α → Action ε τ β} (hx : Alongside R x y)
    (hk : ∀ a, Alongside R (k a) (k' a)) : Alongside R (x >>= k) (y >>= k') := by
  intro s t related
  obtain ⟨answer, events, state⟩ := hx s t related
  simp only [bind_apply, ← answer, ← events]
  cases (x s).answer with
  | error e => exact ⟨rfl, rfl, state⟩
  | ok a =>
    obtain ⟨answer', events', state'⟩ := hk a _ _ state
    exact ⟨answer', congrArg ((x s).events ++ ·) events', state'⟩

theorem get_bind {k : σ → Action ε σ β} {k' : τ → Action ε τ β}
    (hk : ∀ s t, R s t → Alongside R (k s) (k' t)) :
    Alongside R (Action.get >>= k) (Action.get >>= k') :=
  fun s t related => hk s t related s t related

theorem modify {k : σ → σ} {k' : τ → τ} (h : ∀ s t, R s t → R (k s) (k' t)) :
    Alongside R (Action.modify k : Action ε σ Unit) (Action.modify k') :=
  fun s t related => ⟨rfl, rfl, h s t related⟩

theorem attempt (hx : Alongside R x y) :
    Alongside R (Action.attempt x : Action ε' σ (Except ε α)) (Action.attempt y) := by
  intro s t related
  obtain ⟨answer, events, state⟩ := hx s t related
  exact ⟨congrArg Except.ok answer, events, state⟩

theorem mapError (hx : Alongside R x y) (k : ε → ε') :
    Alongside R (Action.mapError k x) (Action.mapError k y) := by
  intro s t related
  obtain ⟨answer, events, state⟩ := hx s t related
  exact ⟨congrArg (Except.mapError k) answer, events, state⟩

theorem followedBy {last : Action ε' σ Unit} {last' : Action ε' τ Unit} (hx : Alongside R x y)
    (h : Alongside R last last') :
    Alongside R (Action.followedBy x last) (Action.followedBy y last') :=
  hx.attempt.bind fun answer => h.attempt.bind fun _ => ofExcept answer

theorem zoom {l : Lens σ σ'} {l' : Lens τ τ'} {f : σ' → τ'} {x : Action ε σ' α}
    {y : Action ε τ' α} (m : Mirrors f id x y) (get : ∀ s t, R s t → l'.get t = f (l.get s))
    (set : ∀ u s t, R s t → R (l.set u s) (l'.set (f u) t)) :
    Alongside R (Action.zoom l x) (Action.zoom l' y) := by
  intro s t related
  rw [zoom_apply, zoom_apply, get s t related, m (l.get s)]
  refine ⟨?_, rfl, set _ s t related⟩
  cases (x (l.get s)).answer <;> rfl

end Alongside

/-! ### Before and after -/

/-- From a state with `P` the action leads to one with `Q`, or with `E` where it fails. -/
def Leads (P : σ → Prop) (x : Action ε σ α) (Q : α → σ → Prop) (E : σ → Prop) : Prop :=
  ∀ s, P s → match (x s).answer with
    | .ok a => Q a (x s).state
    | .error _ => E (x s).state

namespace Leads

variable {P E : σ → Prop} {Q : α → σ → Prop} {x : Action ε σ α}

theorem pure {a : α} (sees : ∀ s, P s → Q a s) : Leads P (Pure.pure a : Action ε σ α) Q E :=
  sees

theorem fail {e : ε} (sees : ∀ s, P s → E s) : Leads P (Action.fail e : Action ε σ α) Q E :=
  sees

theorem bind {f : α → Action ε σ β} {R : β → σ → Prop} (hx : Leads P x Q E)
    (hf : ∀ a, Leads (Q a) (f a) R E) : Leads P (x >>= f) R E := by
  intro s ready
  have first := hx s ready
  cases h : (x s).answer with
  | error e =>
    obtain ⟨answer, state⟩ := bind_error f h
    rw [h] at first
    rw [answer, state]
    exact first
  | ok a =>
    obtain ⟨answer, state⟩ := bind_ok (f := f) h
    rw [h] at first
    rw [answer, state]
    exact hf a _ first

theorem of_fails (fails : ∀ s, P s → (∃ e, (x s).answer = .error e) ∧ E (x s).state) :
    Leads P x Q E := by
  intro s ready
  obtain ⟨⟨e, answer⟩, after⟩ := fails s ready
  rw [answer]
  exact after

theorem bind_eq {a : α} {f : α → Action ε σ β} {P' : σ → Prop} {R : β → σ → Prop}
    (hx : Leads P x (fun b s => b = a ∧ P' s) E) (hf : Leads P' (f a) R E) :
    Leads P (x >>= f) R E := by
  refine hx.bind fun b => ?_
  rintro s ⟨rfl, ready⟩
  exact hf s ready

theorem weaken {P' E' : σ → Prop} {Q' : α → σ → Prop} (h : Leads P x Q E)
    (before : ∀ s, P' s → P s) (after : ∀ a s, Q a s → Q' a s) (failed : ∀ s, E s → E' s) :
    Leads P' x Q' E' := by
  intro s ready
  have post := h s (before s ready)
  cases answer : (x s).answer with
  | error e =>
    rw [answer] at post
    exact failed _ post
  | ok a =>
    rw [answer] at post
    exact after a _ post

theorem attempt {E' : σ → Prop} (h : Leads P x Q E) :
    Leads P (Action.attempt x : Action ε' σ (Except ε α)) (fun result s => match result with
      | .ok a => Q a s
      | .error _ => E s) E' :=
  h

theorem ofExcept {a : Except ε α} (sees : ∀ s, P s → match a with
    | .ok r => Q r s
    | .error _ => E s) : Leads P (Action.ofExcept a : Action ε σ α) Q E :=
  sees

theorem mapError {k : ε → ε'} (h : Leads P x Q E) : Leads P (Action.mapError k x) Q E := by
  intro s ready
  have post := h s ready
  simp only [Action.mapError]
  cases answer : (x s).answer with
  | error e =>
    rw [answer] at post
    exact post
  | ok a =>
    rw [answer] at post
    exact post

theorem of_ok (h : Leads P x Q E) {s : σ} (ready : P s) {a : α} (answer : (x s).answer = .ok a) :
    Q a (x s).state := by
  have post := h s ready
  rw [answer] at post
  exact post

theorem of_error (h : Leads P x Q E) {s : σ} (ready : P s) {e : ε}
    (answer : (x s).answer = .error e) : E (x s).state := by
  have post := h s ready
  rw [answer] at post
  exact post

theorem keeps (h : Leads P x (fun _ => P) P) {s : σ} (ready : P s) : P (x s).state := by
  have post := h s ready
  split at post
  · exact post
  · exact post

theorem of_keeps (h : ∀ s, P s → P (x s).state) : Leads P x (fun _ => P) P := by
  intro s ready
  have kept := h s ready
  split
  · exact kept
  · exact kept

end Leads

/-- The action keeps `P`, whether it succeeds or fails. -/
abbrev Maintains (P : σ → Prop) (x : Action ε σ α) : Prop :=
  Leads P x (fun _ => P) P

namespace Maintains

variable {P : σ → Prop} {x : Action ε σ α}

theorem pure {a : α} : Maintains P (Pure.pure a : Action ε σ α) :=
  Leads.pure fun _ kept => kept

theorem fail {e : ε} : Maintains P (Action.fail e : Action ε σ α) :=
  Leads.fail fun _ kept => kept

theorem ofExcept (a : Except ε α) : Maintains P (Action.ofExcept a : Action ε σ α) :=
  .of_keeps fun _ kept => kept

theorem note (e : Event) : Maintains P (Action.note e : Action ε σ Unit) :=
  .of_keeps fun _ kept => kept

theorem attempt (h : Maintains P x) : Maintains P (Action.attempt x : Action ε' σ (Except ε α)) :=
  .of_keeps fun _ kept => h.keeps kept

theorem followedBy {last : Action ε' σ Unit} (h : Maintains P x) (h' : Maintains P last) :
    Maintains P (Action.followedBy x last) :=
  .of_keeps fun _ kept => h'.keeps (h.keeps kept)

theorem map (h : Maintains P x) (f : α → β) : Maintains P (f <$> x) :=
  h.bind fun _ => .pure fun _ kept => kept

theorem of_map {f : α → β} (h : Maintains P (f <$> x)) : Maintains P x := by
  refine .of_keeps fun s kept => ?_
  have after := h.keeps kept
  rw [map_apply] at after
  exact after

theorem of_mirrors {f : σ → τ} {g : α → β} {P : τ → Prop} {y : Action ε τ β} (m : Mirrors f g x y)
    (h : Maintains P y) : Maintains (fun s => P (f s)) x := by
  refine .of_keeps fun s kept => ?_
  have after := h.keeps kept
  rw [m s] at after
  exact after

end Maintains

/-! ### Reports -/

/-- All that the action reports has the property, whether it succeeds or fails. -/
def Reports (P : Event → Prop) (x : Action ε σ α) : Prop :=
  ∀ s, ∀ e ∈ (x s).events, P e

namespace Reports

variable {P : Event → Prop} {x : Action ε σ α}

private theorem of_silent (silent : ∀ s, (x s).events = []) : Reports P x := by
  intro s e reported
  rw [silent s] at reported
  cases reported

theorem pure (a : α) : Reports P (Pure.pure a : Action ε σ α) :=
  of_silent fun _ => rfl

theorem fail (e : ε) : Reports P (Action.fail e : Action ε σ α) :=
  of_silent fun _ => rfl

theorem get : Reports P (Action.get : Action ε σ σ) :=
  of_silent fun _ => rfl

theorem modify (f : σ → σ) : Reports P (Action.modify f : Action ε σ Unit) :=
  of_silent fun _ => rfl

theorem note {e : Event} (h : P e) : Reports P (Action.note e : Action ε σ Unit) := by
  intro s e' reported
  obtain rfl := List.mem_singleton.mp reported
  exact h

theorem bind {f : α → Action ε σ β} (hx : Reports P x) (hf : ∀ a, Reports P (f a)) :
    Reports P (x >>= f) := by
  intro s e reported
  rw [bind_apply] at reported
  split at reported
  · exact hx s e reported
  · next a _ =>
    rcases List.mem_append.mp reported with first | second
    · exact hx s e first
    · exact hf a _ e second

end Reports

/-! ### Runs -/

variable {K A : Type}

/-- The state after commands one after the other, whether they succeed or fail. -/
def runAll (perform : K → Action ε σ A) (commands : List K) (s : σ) : σ :=
  commands.foldl (fun s k => (perform k s).state) s

def replies (perform : K → Action ε σ A) : List K → σ → List (Except ε A)
  | [], _ => []
  | k :: ks, s => (perform k s).answer :: replies perform ks (perform k s).state

theorem runAll_invariant {perform : K → Action ε σ A} {I : σ → Prop}
    (step : ∀ k s, I s → I (perform k s).state) (commands : List K) {s : σ} (start : I s) :
    I (runAll perform commands s) := by
  induction commands generalizing s with
  | nil => exact start
  | cons k ks ih => exact ih (step k s start)

/-- What the commands of a run keep holds after the run. -/
theorem runAll_keeps {perform : K → Action ε σ A} {I : σ → Prop} (commands : List K)
    (step : ∀ k ∈ commands, ∀ s, I s → I (perform k s).state) {s : σ} (start : I s) :
    I (runAll perform commands s) := by
  induction commands generalizing s with
  | nil => exact start
  | cons k ks ih =>
    exact ih (fun k' member => step k' (List.mem_cons_of_mem _ member))
      (step k List.mem_cons_self s start)

theorem runAll_mirrors {perform : K → Action ε σ A} {perform' : K → Action ε τ A} {f : σ → τ}
    (h : ∀ k, Mirrors f id (perform k) (perform' k)) (commands : List K) (s : σ) :
    runAll perform' commands (f s) = f (runAll perform commands s) := by
  induction commands generalizing s with
  | nil => rfl
  | cons k ks ih =>
    have step : (perform' k (f s)).state = f (perform k s).state := by rw [h k s]
    change runAll perform' ks (perform' k (f s)).state = _
    rw [step, ih]
    rfl

end Peripherals.Action

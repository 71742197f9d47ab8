import Peripherals.Event
/-!
Actions: steps that change a state, report events and may fail. A failed action keeps the state and
the events it had reached, because devices do not undo what was done to them. Main statement: actions
obey the laws of a monad.
-/

set_option autoImplicit false

namespace Peripherals

/-- What an action leaves behind. -/
structure Outcome (ε σ α : Type) where
  answer : Except ε α
  events : List Event
  state : σ

def Action (ε σ α : Type) : Type :=
  σ → Outcome ε σ α

/-- A part of a state that can be read and replaced. -/
structure Lens (σ τ : Type) where
  get : σ → τ
  set : τ → σ → σ

namespace Lens

def id {σ : Type} : Lens σ σ := ⟨fun s => s, fun s _ => s⟩

def fst {σ τ : Type} : Lens (σ × τ) σ := ⟨(·.1), fun a p => (a, p.2)⟩

def snd {σ τ : Type} : Lens (σ × τ) τ := ⟨(·.2), fun b p => (p.1, b)⟩

def comp {σ τ υ : Type} (outer : Lens σ τ) (inner : Lens τ υ) : Lens σ υ :=
  ⟨fun s => inner.get (outer.get s), fun u s => outer.set (inner.set u (outer.get s)) s⟩

def both {σ τ υ : Type} (a : Lens σ τ) (b : Lens σ υ) : Lens σ (τ × υ) :=
  ⟨fun s => (a.get s, b.get s), fun p s => b.set p.2 (a.set p.1 s)⟩

/-- A part of a state, while a value beside the state stays. -/
def beside {σ τ C : Type} (l : Lens σ τ) : Lens (σ × C) (τ × C) :=
  ⟨fun p => (l.get p.1, p.2), fun q p => (l.set q.1 p.1, q.2)⟩

end Lens

namespace Action

variable {ε ε' σ τ α β γ : Type}

@[always_inline] protected def pure (a : α) : Action ε σ α :=
  fun s => ⟨.ok a, [], s⟩

@[always_inline] protected def bind (x : Action ε σ α) (f : α → Action ε σ β) : Action ε σ β := fun s =>
  let r := x s
  match r.answer with
  | .error e => ⟨.error e, r.events, r.state⟩
  | .ok a =>
    let r' := f a r.state
    ⟨r'.answer, r.events ++ r'.events, r'.state⟩

instance : Monad (Action ε σ) where
  pure := Action.pure
  bind := Action.bind

def fail (e : ε) : Action ε σ α :=
  fun s => ⟨.error e, [], s⟩

instance : MonadExceptOf ε (Action ε σ) where
  throw := fail
  tryCatch x handle := fun s =>
    let r := x s
    match r.answer with
    | .ok a => ⟨.ok a, r.events, r.state⟩
    | .error e =>
      let r' := handle e r.state
      ⟨r'.answer, r.events ++ r'.events, r'.state⟩

def ofExcept (x : Except ε α) : Action ε σ α :=
  fun s => ⟨x, [], s⟩

def note (e : Event) : Action ε σ Unit :=
  fun s => ⟨.ok (), [e], s⟩

def get : Action ε σ σ :=
  fun s => ⟨.ok s, [], s⟩

def set (s : σ) : Action ε σ Unit :=
  fun _ => ⟨.ok (), [], s⟩

def modify (f : σ → σ) : Action ε σ Unit :=
  fun s => ⟨.ok (), [], f s⟩

/-- Runs an action and hands its failure to the caller as a value. -/
def attempt (x : Action ε σ α) : Action ε' σ (Except ε α) := fun s =>
  let r := x s
  ⟨.ok r.answer, r.events, r.state⟩

def mapError (f : ε → ε') (x : Action ε σ α) : Action ε' σ α := fun s =>
  let r := x s
  ⟨r.answer.mapError f, r.events, r.state⟩

def zoom (l : Lens σ τ) (x : Action ε τ α) : Action ε σ α := fun s =>
  let r := x (l.get s)
  ⟨r.answer, r.events, l.set r.state s⟩

/-- Runs an action with a value beside the state and gives the value back with the answer, whatever
the answer is. -/
def beside (value : τ) (x : Action ε (σ × τ) α) : Action ε' σ (Except ε α × τ) := fun s =>
  let r := x (s, value)
  ⟨.ok (r.answer, r.state.2), r.events, r.state.1⟩

/-- Runs an action and then another one, which cannot spoil the answer of the first. -/
def followedBy (x : Action ε σ α) (last : Action ε' σ Unit) : Action ε σ α := do
  let answer ← attempt x
  let _ ← attempt last
  ofExcept answer

@[simp] theorem pure_apply (a : α) (s : σ) :
    (pure a : Action ε σ α) s = ⟨.ok a, [], s⟩ := rfl

theorem bind_apply (x : Action ε σ α) (f : α → Action ε σ β) (s : σ) :
    (x >>= f) s = match (x s).answer with
      | .error e => ⟨.error e, (x s).events, (x s).state⟩
      | .ok a =>
        ⟨(f a (x s).state).answer, (x s).events ++ (f a (x s).state).events,
          (f a (x s).state).state⟩ := rfl

@[simp] theorem fail_apply (e : ε) (s : σ) :
    (fail e : Action ε σ α) s = ⟨.error e, [], s⟩ := rfl

@[simp] theorem note_apply (e : Event) (s : σ) :
    (note e : Action ε σ Unit) s = ⟨.ok (), [e], s⟩ := rfl

private theorem eq_of_apply {x y : Action ε σ α} (h : ∀ s, x s = y s) : x = y :=
  funext h

instance : LawfulMonad (Action ε σ) :=
  LawfulMonad.mk' _
    (fun x => eq_of_apply fun s => by
      change (x >>= pure) s = x s
      rw [bind_apply]
      rcases h : x s with ⟨_ | _, _, _⟩ <;> simp)
    (fun a f => eq_of_apply fun s => by
      rw [bind_apply]
      simp)
    (fun x f g => eq_of_apply fun s => by
      simp only [bind_apply]
      rcases x s with ⟨_ | a, _, s'⟩
      · rfl
      · dsimp only
        rcases f a s' with ⟨_ | b, _, s''⟩ <;> simp)

end Action

end Peripherals

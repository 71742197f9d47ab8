import Peripherals.Proofs.Desk.Tended
/-!
Desks whose device is changed from outside as well: simulated devices, whose values are set by someone
else between the commands. Main statement: what commands and changes keep of every key, every run of
them keeps.
-/

set_option autoImplicit false

namespace Peripherals

variable {σ S C A K E : Type}

/-- What happens at a desk: a command, or a change of its device from outside. -/
inductive Occurrence (K E : Type) where
  | command (k : K)
  | outside (e : E)
  deriving DecidableEq

namespace Occurrence

/-- Carries out a command, or changes the device. Only a command has an answer. -/
def perform (commands : K → Action Fault (Desk σ S C) A) (change : E → σ → σ) :
    Occurrence K E → Action Fault (Desk σ S C) (Option A)
  | .command k => some <$> commands k
  | .outside e => do
    Action.modify fun d => { d with device := change e d.device }
    return none

variable {commands : K → Action Fault (Desk σ S C) A} {change : E → σ → σ}

theorem perform_command (k : K) (d : Desk σ S C) :
    (perform commands change (.command k) d).answer = (commands k d).answer.map some ∧
      (perform commands change (.command k) d).state = (commands k d).state := by
  rw [perform, Action.map_apply]
  exact ⟨rfl, rfl⟩

theorem perform_mirrors {σ' C' : Type} {commands' : K → Action Fault (Desk σ' S C') A}
    {change' : E → σ' → σ'} {f : Desk σ S C → Desk σ' S C'}
    (same : ∀ k, Action.Mirrors f id (commands k) (commands' k))
    (changes : ∀ e d, { f d with device := change' e (f d).device } =
      f { d with device := change e d.device }) (o : Occurrence K E) :
    Action.Mirrors f id (perform commands change o) (perform commands' change' o) := by
  cases o with
  | command k => exact (same k).bind fun a => Action.Mirrors.pure (some a)
  | outside e => exact (Action.Mirrors.modify (changes e)).bind fun _ => Action.Mirrors.pure none

/-- What commands and changes keep of every key, every run keeps. -/
theorem tended_run {P : KeyProperty σ S C}
    (step : ∀ k (d : Desk σ S C), d.Tended P → (commands k d).state.Tended P)
    (changes : ∀ e key s l, P key s l → P key (change e s) l) {s : σ} (start : ∀ key, P key s none)
    (counter : Nat) (os : List (Occurrence K E)) :
    (Action.runAll (perform commands change) os (Desk.vacant s counter)).Tended P := by
  refine Action.runAll_invariant (I := Desk.Tended P) (fun o d t => ?_) os (.vacant start counter)
  cases o with
  | command k =>
    rw [(perform_command k d).2]
    exact step k d t
  | outside e => exact ⟨t.sound, fun key => changes e key _ _ (t.holds key)⟩

end Occurrence

end Peripherals

import Peripherals.Proofs.Board.Demand
/-!
Boards under watch, which write down every module that their offers build. Main statement: watching
changes nothing else.
-/

set_option autoImplicit false

namespace Peripherals.Board

variable {τ : Type}

/-- The modules that were built, each with the kind whose offer built it, the oldest first. -/
abbrev Builds := List (ModuleKind × ModuleRef)

def watchedOffer (kind : ModuleKind) (o : Offer τ) : Offer (τ × Builds) where
  backend := o.backend
  build p := ((o.build p.1).1, (o.build p.1).2, p.2 ++ [(kind, (o.build p.1).1)])

def watched (b : Board τ) : Board (τ × Builds) where
  platform := b.platform
  offers := ⟨b.offers.pairs.map fun p => (p.1, watchedOffer p.1 p.2)⟩
  installed := b.installed

theorem offers_watched (b : Board τ) (kind : ModuleKind) :
    b.watched.offers.get? kind = (b.offers.get? kind).map (watchedOffer kind) := by
  simp only [watched, Assoc.get?, List.find?_map, Option.map_map]
  cases found : b.offers.pairs.find? fun p => p.1 = kind with
  | none =>
    have unfound : b.offers.pairs.find?
        ((fun p : ModuleKind × Offer (τ × Builds) => decide (p.1 = kind)) ∘
          fun p => (p.1, watchedOffer p.1 p.2)) = none := found
    rw [unfound]
    rfl
  | some p =>
    have key : p.1 = kind := by simpa using List.find?_some found
    have found' : b.offers.pairs.find?
        ((fun p : ModuleKind × Offer (τ × Builds) => decide (p.1 = kind)) ∘
          fun p => (p.1, watchedOffer p.1 p.2)) = some p := found
    rw [found']
    simp [key]

/-- At a watched board the action `x` does what `y` does at the board itself, and may add to what is
written down. -/
def Follows {α : Type} (x : Action Fault (Board (τ × Builds) × (τ × Builds)) α)
    (y : Action Fault (Board τ × τ) α) : Prop :=
  ∀ b t log, ∃ log', x (b.watched, (t, log)) = ⟨(y (b, t)).answer, (y (b, t)).events,
    ((y (b, t)).state.1.watched, ((y (b, t)).state.2, log'))⟩

namespace Follows

variable {α β : Type} {x : Action Fault (Board (τ × Builds) × (τ × Builds)) α}
  {y : Action Fault (Board τ × τ) α}

private theorem of_still (a : Except Fault α) (events : List Event)
    (hx : ∀ s, x s = ⟨a, events, s⟩) (hy : ∀ s, y s = ⟨a, events, s⟩) : Follows x y := by
  intro b t log
  rw [hx, hy]
  exact ⟨log, rfl⟩

private theorem pure (a : α) : Follows (Pure.pure a) (Pure.pure a : Action Fault (Board τ × τ) α) :=
  of_still (.ok a) [] (fun _ => rfl) fun _ => rfl

private theorem fail (f : Fault) : Follows (Action.fail f)
    (Action.fail f : Action Fault (Board τ × τ) α) :=
  of_still (.error f) [] (fun _ => rfl) fun _ => rfl

private theorem note (e : Event) :
    Follows (Action.note e) (Action.note e : Action Fault (Board τ × τ) Unit) :=
  of_still (.ok ()) [e] (fun _ => rfl) fun _ => rfl

private theorem bind {f : α → Action Fault (Board (τ × Builds) × (τ × Builds)) β}
    {g : α → Action Fault (Board τ × τ) β} (h : Follows x y) (next : ∀ a, Follows (f a) (g a)) :
    Follows (x >>= f) (y >>= g) := by
  intro b t log
  obtain ⟨log', first⟩ := h b t log
  simp only [Action.bind_apply, first]
  cases (y (b, t)).answer with
  | error e => exact ⟨log', rfl⟩
  | ok a =>
    obtain ⟨log'', second⟩ := next a (y (b, t)).state.1 (y (b, t)).state.2 log'
    simp only [second]
    exact ⟨log'', rfl⟩

private theorem map (h : Follows x y) (f : α → β) : Follows (f <$> x) (f <$> y) :=
  h.bind fun _ => pure _

private theorem attempt (h : Follows x y) : Follows
    (Action.attempt x : Action Fault (Board (τ × Builds) × (τ × Builds)) (Except Fault α))
    (Action.attempt y) := by
  intro b t log
  obtain ⟨log', same⟩ := h b t log
  simp only [Action.attempt_apply, same]
  exact ⟨log', rfl⟩

end Follows

private theorem offerNamed?_watched (b : Board τ) (name : String) :
    b.watched.offerNamed? name =
      (b.offerNamed? name).map fun p => (p.1, watchedOffer p.1 p.2) := by
  cases named : ModuleKind.ofName? name with
  | none => simp [offerNamed?, named]
  | some kind =>
    cases offered : b.offers.get? kind with
    | none => simp [offerNamed?, named, offers_watched, offered]
    | some o => simp [offerNamed?, named, offers_watched, offered]

private theorem follows_install (kind : ModuleKind) (o : Offer τ) :
    Follows (install kind (watchedOffer kind o)) (install kind o) := by
  intro b t log
  have same : b.watched.installed = b.installed := rfl
  simp only [install, same]
  cases b.installed.get? kind with
  | some i => exact ⟨log, rfl⟩
  | none => exact ⟨log ++ [(kind, (o.build t).1)], rfl⟩

private theorem follows_setUses (kind : ModuleKind) (i : Installed) (uses : Nat) :
    Follows (setUses kind i uses) (setUses kind i uses : Action Fault (Board τ × τ) Unit) :=
  fun _ _ log => ⟨log, rfl⟩

private theorem follows_request (name : String) :
    Follows (request name) (request name : Action Fault (Board τ × τ) ModuleRef) := by
  intro b t log
  simp only [request, Action.bind_apply, Action.get_apply, offerNamed?_watched]
  cases b.offerNamed? name with
  | none => exact ⟨log, rfl⟩
  | some p =>
    obtain ⟨kind, o⟩ := p
    have steps := (follows_install kind o).bind fun i =>
      (follows_setUses kind i (i.uses + 1)).bind fun _ =>
        (Follows.note ⟨.debug, "Module requested",
          [("module", kind.name), ("refs", Text.number (i.uses + 1))]⟩).bind fun _ =>
            Follows.pure i.module
    exact steps b t log

private theorem follows_releaseAs (kind : ModuleKind) (m : ModuleRef) :
    Follows (releaseAs kind m) (releaseAs kind m : Action Fault (Board τ × τ) Unit) := by
  intro b t log
  have same : b.watched.installed = b.installed := rfl
  simp only [releaseAs, Action.bind_apply, Action.get_apply, same]
  cases b.installed.get? kind with
  | none => exact ⟨log, rfl⟩
  | some i =>
    by_cases refusal : i.uses = 0 ∨ i.module ≠ m
    · simp only [if_pos refusal]
      exact ⟨log, rfl⟩
    · simp only [if_neg refusal]
      have idle : Follows (if i.uses = 1 then Action.note ⟨.info, "Module idle",
          [("module", kind.name)]⟩ else pure ())
          (if i.uses = 1 then Action.note ⟨.info, "Module idle", [("module", kind.name)]⟩
            else pure () : Action Fault (Board τ × τ) Unit) := by
        split
        · exact .note _
        · exact .pure ()
      have steps := (follows_setUses kind i (i.uses - 1)).bind fun _ =>
        (Follows.note ⟨.debug, "Module released",
          [("module", kind.name), ("refs", Text.number (i.uses - 1))]⟩).bind fun _ => idle
      exact steps b t log

private theorem follows_requestKind (kind : ModuleKind) :
    Follows (requestKind kind) (requestKind kind : Action Fault (Board τ × τ) ModuleRef) := by
  refine (follows_request kind.name).bind fun m => ?_
  by_cases own : m.kind = kind
  · simp only [if_pos own]
    exact .pure m
  · simp only [if_neg own]
    refine (follows_releaseAs kind m).attempt.bind fun result => ?_
    cases result with
    | ok u => exact (Follows.pure ()).bind fun _ => .fail _
    | error e => exact (Follows.note _).bind fun _ => .fail _

/-- Watching the offers changes nothing else. -/
theorem follows_perform (d : Demand) :
    Follows (perform d) (perform d : Action Fault (Board τ × τ) Answer) := by
  cases d with
  | request name => exact (follows_request name).map _
  | requestKind kind => exact (follows_requestKind kind).map _
  | release m => exact (follows_releaseAs m.kind m).map _

end Peripherals.Board

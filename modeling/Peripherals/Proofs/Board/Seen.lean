import Peripherals.Board.Configured
import Peripherals.Proofs.Rig.Seen
/-!
Views of boards. Main statements: two boards that offer the same modules, one of them in a view of the
other's state, are asked side by side, and the boards of one configuration are two such boards.
-/

set_option autoImplicit false

namespace Peripherals

open Peripherals.Action (Alongside Mirrors)

variable {τ' τ σ φ F : Type}

/-- In a view of the state, one offer builds what another one does. -/
structure Offer.SeenAs (o' : Offer τ') (f : τ' → τ) (o : Offer τ) : Prop where
  backend : o.backend = o'.backend
  build : ∀ t, o.build (f t) = ((o'.build t).1, f (o'.build t).2)

namespace Board

/-- In a view of the state, one board offers what another one does, and has built the same. -/
structure SeenAs (b' : Board τ') (f : τ' → τ) (b : Board τ) : Prop where
  platform : b.platform = b'.platform
  offers : ∀ kind, Option.Rel (fun o' o => o'.SeenAs f o) (b'.offers.get? kind) (b.offers.get? kind)
  installed : b.installed = b'.installed

/-- A board and its state beside the same in a view. -/
def Paired (f : τ' → τ) (s : Board τ' × τ') (t : Board τ × τ) : Prop :=
  s.1.SeenAs f t.1 ∧ t.2 = f s.2

variable {f : τ' → τ} {b' : Board τ'} {b : Board τ}

namespace SeenAs

private theorem offers_cases (m : b'.SeenAs f b) (kind : ModuleKind) :
    (b'.offers.get? kind = none ∧ b.offers.get? kind = none) ∨
      ∃ o' o, b'.offers.get? kind = some o' ∧ b.offers.get? kind = some o ∧ o'.SeenAs f o := by
  have same := m.offers kind
  generalize b'.offers.get? kind = o', b.offers.get? kind = o at same
  cases same with
  | none => exact .inl ⟨rfl, rfl⟩
  | some same => exact .inr ⟨_, _, rfl, rfl, same⟩

theorem backend?_eq (m : b'.SeenAs f b) (kind : ModuleKind) : b.backend? kind = b'.backend? kind := by
  unfold backend?
  rcases m.offers_cases kind with ⟨absent', absent⟩ | ⟨o', o, offered', offered, same⟩
  · rw [absent', absent]
    rfl
  · rw [offered', offered]
    exact congrArg some same.backend

theorem available_eq (m : b'.SeenAs f b) : b.available = b'.available := by
  have offered (kind : ModuleKind) : b.offers.contains kind = b'.offers.contains kind := by
    unfold Assoc.contains
    rcases m.offers_cases kind with ⟨absent', absent⟩ | ⟨o', o, offered', offered, _⟩
    · rw [absent', absent]
      rfl
    · rw [offered', offered]
      rfl
  exact congrArg ModuleKind.all.filter (funext offered)

private theorem offer (m : b'.SeenAs f b) (kind : ModuleKind) {o' : Offer τ'} {o : Offer τ}
    (same : o'.SeenAs f o) : (b'.offer kind o').SeenAs f (b.offer kind o) where
  platform := m.platform
  offers other := by
    simp only [Board.offer, Assoc.get?_put]
    split
    · exact .some same
    · exact m.offers other
  installed := m.installed

private theorem offer? (m : b'.SeenAs f b) (kind : ModuleKind) {o' : Option (Offer τ')}
    {o : Option (Offer τ)} (same : Option.Rel (fun o' o => o'.SeenAs f o) o' o) :
    (b'.offer? kind o').SeenAs f (b.offer? kind o) := by
  cases same with
  | none => exact m
  | some same => exact m.offer kind same

private theorem built (m : b'.SeenAs f b) (kind : ModuleKind) (i : Installed) :
    ({ b' with installed := b'.installed.put kind i } : Board τ').SeenAs f
      { b with installed := b.installed.put kind i } :=
  ⟨m.platform, m.offers, congrArg (·.put kind i) m.installed⟩

end SeenAs

/-! ### Requests and releases -/

private theorem install_alongside (kind : ModuleKind) {o' : Offer τ'} {o : Offer τ}
    (same : o'.SeenAs f o) :
    Alongside (Paired f) (install kind o') (install kind o) := by
  rintro ⟨b', t'⟩ ⟨b, _⟩ ⟨m, rfl⟩
  have installed : b.installed.get? kind = b'.installed.get? kind :=
    congrArg (·.get? kind) m.installed
  simp only [install, installed, same.backend, same.build]
  cases b'.installed.get? kind with
  | some i => exact ⟨rfl, rfl, m, rfl⟩
  | none => exact ⟨rfl, rfl, m.built kind _, rfl⟩

private theorem setUses_alongside (kind : ModuleKind) (i : Installed) (uses : Nat) :
    Alongside (Paired f) (setUses kind i uses) (setUses kind i uses) := by
  refine .modify fun s t related => ?_
  exact ⟨related.1.built kind _, related.2⟩

private theorem request_alongside (name : String) :
    Alongside (Paired f) (request name : Action Fault (Board τ' × τ') _) (request name) := by
  refine .get_bind fun s t related => ?_
  unfold offerNamed?
  cases ModuleKind.ofName? name with
  | none => exact .fail _
  | some kind =>
    simp only [Option.bind_eq_bind, Option.bind_some]
    rcases related.1.offers_cases kind with ⟨absent', absent⟩ | ⟨o', o, offered', offered, same⟩
    · rw [absent', absent]
      exact .fail _
    · rw [offered', offered]
      exact (install_alongside kind same).bind fun i => (setUses_alongside kind i _).bind fun _ =>
        (Alongside.note _).bind fun _ => .pure _

theorem releaseAs_alongside (kind : ModuleKind) (m : ModuleRef) :
    Alongside (Paired f) (releaseAs kind m : Action Fault (Board τ' × τ') _) (releaseAs kind m) := by
  refine .get_bind fun s t related => ?_
  rw [related.1.installed]
  cases s.1.installed.get? kind with
  | none => exact .fail _
  | some i =>
    simp only
    split
    · exact .fail _
    · refine (setUses_alongside kind i _).bind fun _ => (Alongside.note _).bind fun _ => ?_
      split
      · exact .note _
      · exact .pure _

theorem requestKind_alongside (kind : ModuleKind) :
    Alongside (Paired f) (requestKind kind : Action Fault (Board τ' × τ') _) (requestKind kind) := by
  refine (request_alongside kind.name).bind fun m => ?_
  split
  · exact .pure m
  · refine (releaseAs_alongside kind m).attempt.bind fun result => ?_
    cases result with
    | ok u => exact .fail _
    | error e => exact (Alongside.note _).bind fun _ => .fail _

/-! ### Boards from a configuration -/

section Configured

variable (f : σ → φ) (c : Configuration)

private theorem adcOffer?_seen (backing : Backing) : Option.Rel (fun o' o => o'.SeenAs (Rig.seen f) o)
    (adcOffer? c backing : Option (Offer (Rig σ F))) (adcOffer? c backing) := by
  cases backing with
  | disabled => exact .none
  | sysfs | tizenrt | mock => exact .some ⟨rfl, fun _ => rfl⟩

private theorem gpioOffer?_seen (backing : Backing) : Option.Rel (fun o' o => o'.SeenAs (Rig.seen f) o)
    (gpioOffer? c backing : Option (Offer (Rig σ F))) (gpioOffer? c backing) := by
  cases backing with
  | tizenrt | disabled => exact .none
  | sysfs | mock => exact .some ⟨rfl, fun _ => rfl⟩

private theorem pwmOffer?_seen (backing : Backing) : Option.Rel (fun o' o => o'.SeenAs (Rig.seen f) o)
    (pwmOffer? c backing : Option (Offer (Rig σ F))) (pwmOffer? c backing) := by
  cases backing with
  | tizenrt | disabled => exact .none
  | sysfs | mock => exact .some ⟨rfl, fun _ => rfl⟩

/-- A configuration describes the same board in a view. -/
theorem ofPlatform_seenAs (platform : Platform) :
    (ofPlatform c platform : Board (Rig σ F)).SeenAs (Rig.seen f) (ofPlatform c platform) :=
  have bare : ({ platform } : Board (Rig σ F)).SeenAs (Rig.seen f) { platform } :=
    ⟨rfl, fun _ => .none, rfl⟩
  ((bare.offer? .adc (adcOffer?_seen f c _)).offer? .gpio (gpioOffer?_seen f c _)).offer? .pwm
    (pwmOffer?_seen f c _)

end Configured

end Board

end Peripherals

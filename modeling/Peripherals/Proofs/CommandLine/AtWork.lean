import Peripherals.CommandLine.Run
import Peripherals.Proofs.Board.Exclusive
import Peripherals.Proofs.Rig.Kempt
/-!
A command line at work: its board has built one module, and works at the desk of that module. Main
statements: what a step leads to at the desk it leads to at the board, the module can be given back at
any time, and the end of the board is the end of the desk.
-/

set_option autoImplicit false

namespace Peripherals

open Peripherals.Action (Leads Maintains)

variable {φ F α : Type}

/-! ### New modules -/

theorem Assoc.eq_empty {κ ν : Type} [DecidableEq κ] {m : Assoc κ ν} (none : ∀ k, m.get? k = none) :
    m = ∅ := by
  obtain ⟨pairs⟩ := m
  cases pairs with
  | nil => rfl
  | cons p rest =>
    have absent := Assoc.get?_eq_none_iff.mp (none p.1)
    exact absurd List.mem_cons_self absent

private theorem HandleTable.Sound.eq_empty {κ ν : Type} [DecidableEq κ] {t : HandleTable κ ν}
    {counter : Nat}
    (sound : t.Sound counter) (keyless : ∀ h, t.keyOf? h = none) : t = ∅ := by
  obtain ⟨slots, index⟩ := t
  have slotless : slots = ∅ := Assoc.eq_empty fun h => Option.map_eq_none_iff.mp (keyless h)
  have unindexed : index = ∅ := by
    refine Assoc.eq_empty fun key => ?_
    rw [Option.eq_none_iff_forall_ne_some]
    intro h found
    obtain ⟨v, slot⟩ := (sound.index_iff key h).mp found
    rw [show (⟨slots, index⟩ : HandleTable κ ν).slots = ∅ from slotless, Assoc.get?_empty] at slot
    cases slot
  rw [slotless, unindexed]
  rfl

private theorem AnyModule.relet_leases (fs : FileSystem φ F) (x : AnyModule F) :
    x.relet fs (x.leases fs) = x := by
  cases x <;> rfl

namespace CommandLine

variable (fs : FileSystem φ F)

/-! ### One module -/

/-- The board has built the module `m` and no other, and its desk has the property `D`. The backend is
that of `x`. -/
structure AtWork (m : ModuleRef) (x : AnyModule F)
    (D : Desk (World φ) (x.manager fs).Settings (x.manager fs).Channel → Prop)
    (s : Board (Rig φ F) × Rig φ F) : Prop where
  built : ∃ uses, s.1.installed = ⟨[(m.kind, ⟨m, uses⟩)]⟩
  desk : ∃ leases, s.2.module? m = some (x.relet fs leases) ∧ D ⟨s.2.world, s.2.counter, leases⟩

variable {fs} {m : ModuleRef} {x : AnyModule F}
  {D E : Desk (World φ) (x.manager fs).Settings (x.manager fs).Channel → Prop}
  {Q : α → Desk (World φ) (x.manager fs).Settings (x.manager fs).Channel → Prop}
  {s : Board (Rig φ F) × Rig φ F}

/-- What a step does at the desk of a module, put back into the rig. -/
def ActsAt (fs : FileSystem φ F) (m : ModuleRef) (x : AnyModule F)
    (work : Action Fault (Desk (World φ) (x.manager fs).Settings (x.manager fs).Channel) α)
    (step : Work φ F α) : Prop :=
  ∀ (s : Board (Rig φ F) × Rig φ F) leases, s.2.module? m = some (x.relet fs leases) →
    let o := work ⟨s.2.world, s.2.counter, leases⟩
    (step s).answer = o.answer.mapError (Complaint.refused ∘ Refusal.fault) ∧
      (step s).state = (s.1, s.2.back m.serial fs x o.state)

private theorem AtWork.kind (atWork : AtWork fs m x D s) : x.kind = m.kind := by
  obtain ⟨leases, found, _⟩ := atWork.desk
  exact (AnyModule.kind_relet leases).symm.trans (Rig.kind_of_module? found)

theorem AtWork.mono (atWork : AtWork fs m x D s) (weaker : ∀ d, D d → E d) : AtWork fs m x E s := by
  obtain ⟨leases, found, good⟩ := atWork.desk
  exact ⟨atWork.built, leases, found, weaker _ good⟩

/-- What a step leads to at the desk it leads to at the board. -/
theorem ActsAt.leads
    {work : Action Fault (Desk (World φ) (x.manager fs).Settings (x.manager fs).Channel) α}
    {step : Work φ F α} (acts : ActsAt fs m x work step) (h : Leads D work Q E) :
    Leads (AtWork fs m x D) step (fun a => AtWork fs m x (Q a)) (AtWork fs m x E) := by
  intro s atWork
  obtain ⟨leases, found, good⟩ := atWork.desk
  obtain ⟨answer, state⟩ := acts s leases found
  have post := h _ good
  have seated {P : Desk (World φ) (x.manager fs).Settings (x.manager fs).Channel → Prop}
      (d : Desk (World φ) (x.manager fs).Settings (x.manager fs).Channel) (after : P d) :
      AtWork fs m x P (s.1, s.2.back m.serial fs x d) := by
    obtain ⟨world, counter, _⟩ := s.2.fields_back fs m.serial x d
    refine ⟨atWork.built, d.leases, ?_, ?_⟩
    · rw [Rig.module?_back, if_pos (by rw [atWork.kind])]
    · rw [world, counter]
      exact after
  rw [answer, state]
  cases result : (work ⟨s.2.world, s.2.counter, leases⟩).answer with
  | error e =>
    rw [result] at post
    exact seated _ post
  | ok a =>
    rw [result] at post
    exact seated _ post

section Desks

variable {n : Nat} (fs)

theorem actsAt_onAdc (a : Adc.Module F) (work : (C : Type) → Adc.Driver (World φ) C →
    Action Fault (Desk (World φ) Adc.Config C) α) :
    ActsAt fs ⟨.adc, n⟩ (.adc a) (work _ (a.backend.driver fs))
      (onRig (Rig.onAdc fs n work)) := by
  intro s leases found
  obtain ⟨b, there, same⟩ := Option.map_eq_some_iff.mp found
  obtain rfl : b = ⟨a.backend, leases⟩ := AnyModule.adc.inj same
  simp only at there
  simp only [onRig, atBoard, Action.mapError, Action.zoom_apply, Lens.snd, Rig.onAdc, there]
  exact ⟨rfl, rfl⟩

theorem actsAt_onGpio (a : Gpio.Module F) (work : (C : Type) → Gpio.Driver (World φ) C →
    Action Fault (Desk (World φ) Gpio.Config C) α) :
    ActsAt fs ⟨.gpio, n⟩ (.gpio a) (work _ (a.backend.driver fs))
      (onRig (Rig.onGpio fs n work)) := by
  intro s leases found
  obtain ⟨b, there, same⟩ := Option.map_eq_some_iff.mp found
  obtain rfl : b = ⟨a.backend, leases⟩ := AnyModule.gpio.inj same
  simp only at there
  simp only [onRig, atBoard, Action.mapError, Action.zoom_apply, Lens.snd, Rig.onGpio, there]
  exact ⟨rfl, rfl⟩

theorem actsAt_onPwm (a : Pwm.Module) (work : (C : Type) → Pwm.Driver (World φ) C →
    Action Fault (Desk (World φ) Pwm.Signal C) α) :
    ActsAt fs ⟨.pwm, n⟩ (.pwm a) (work _ (a.backend.driver fs))
      (onRig (Rig.onPwm fs n work)) := by
  intro s leases found
  obtain ⟨b, there, same⟩ := Option.map_eq_some_iff.mp found
  obtain rfl : b = ⟨a.backend, leases⟩ := AnyModule.pwm.inj same
  simp only at there
  simp only [onRig, atBoard, Action.mapError, Action.zoom_apply, Lens.snd, Rig.onPwm, there]
  exact ⟨rfl, rfl⟩

end Desks

theorem AtWork.surroundings {f : φ → φ} (atWork : AtWork fs m x D s)
    (drift : ∀ d, D d → D { d with device := { d.device with files := f d.device.files } }) :
    AtWork fs m x D (CommandLine.surroundings f s).state := by
  obtain ⟨leases, found, good⟩ := atWork.desk
  exact ⟨atWork.built, leases, found, drift _ good⟩

theorem AtWork.release (atWork : AtWork fs m x D s) :
    AtWork fs m x D (atBoard (Board.release m) s).state := by
  obtain ⟨uses, built⟩ := atWork.built
  have found : s.1.installed.get? m.kind = some ⟨m, uses⟩ := by
    rw [built]
    simp [Assoc.get?]
  change AtWork fs m x D (Board.releaseAs m.kind m s).state
  cases uses with
  | zero =>
    rw [Board.releaseAs_foreign fun i there _ => by
      rw [found] at there
      rw [← Option.some.inj there]]
    exact atWork
  | succ uses =>
    rw [(Board.releaseAs_own found).2]
    refine ⟨⟨uses, ?_⟩, atWork.desk⟩
    simp [Board.seat, built, Assoc.put, Assoc.erase]

/-! ### The end of the board -/

private theorem onRig_bind {β : Type} (y : Action Fault (Rig φ F) α)
    (f : α → Action Fault (Rig φ F) β) :
    onRig (y >>= f) = onRig y >>= fun a => (onRig (f a) : Work φ F β) := by
  funext s
  simp only [onRig, atBoard, Action.mapError, Action.zoom_apply, Action.bind_apply, Lens.snd]
  cases (y s.2).answer <;> rfl

/-- With the module ends its desk. -/
private theorem dispose_leads {G : World φ → Prop}
    (ends : ∀ d, D d → G ((x.manager fs).device.teardown d).state.device) :
    Leads (AtWork fs m x D) (onRig (Rig.dispose fs m)) (fun _ s => G s.2.world)
      (fun s => G s.2.world) := by
  intro s atWork
  refine (?_ : Leads (AtWork fs m x D) _ (fun _ s => G s.2.world) fun s => G s.2.world) s atWork
  have kind := atWork.kind
  obtain ⟨_, serial⟩ := m
  obtain rfl : x.kind = _ := kind
  have tears : Leads D (x.manager fs).device.teardown (fun _ d => G d.device) (fun d => G d.device) := by
    intro d good
    split
    · exact ends d good
    · exact ends d good
  have world {P : Desk (World φ) (x.manager fs).Settings (x.manager fs).Channel → Prop}
      (sees : ∀ d, P d → G d.device) (s : Board (Rig φ F) × Rig φ F)
      (atWork : AtWork fs ⟨x.kind, serial⟩ x P s) : G s.2.world := by
    obtain ⟨leases, _, good⟩ := atWork.desk
    exact sees _ good
  cases x with
  | adc a =>
    unfold Rig.dispose
    simp only [AnyModule.kind, onRig_bind]
    exact ((actsAt_onAdc fs a fun _ d => d.device.teardown).leads tears).weaken (fun _ => id)
      (fun _ => world fun _ => id) (world fun _ => id) |>.bind fun _ => .of_keeps fun _ => id
  | gpio a =>
    unfold Rig.dispose
    simp only [AnyModule.kind, onRig_bind]
    exact ((actsAt_onGpio fs a fun _ d => d.device.teardown).leads tears).weaken (fun _ => id)
      (fun _ => world fun _ => id) (world fun _ => id) |>.bind fun _ => .of_keeps fun _ => id
  | pwm a =>
    unfold Rig.dispose
    simp only [AnyModule.kind, onRig_bind]
    exact ((actsAt_onPwm fs a fun _ d => d.device.teardown).leads tears).weaken (fun _ => id)
      (fun _ => world fun _ => id) (world fun _ => id) |>.bind fun _ => .of_keeps fun _ => id

theorem AtWork.endBoard {G : World φ → Prop} (atWork : AtWork fs m x D s)
    (ends : ∀ d, D d → G ((x.manager fs).device.teardown d).state.device) :
    G (CommandLine.endBoard fs s).state.2.world := by
  obtain ⟨uses, built⟩ := atWork.built
  have one : s.1.builtModules = [m] := by simp [Board.builtModules, built]
  have ended : Leads (AtWork fs m x D) (endModules fs [m]) (fun _ s => G s.2.world)
      (fun s => G s.2.world) :=
    (dispose_leads ends).bind fun _ => .of_keeps fun _ => id
  have post := ended s atWork
  change G (endModules fs s.1.builtModules s).state.2.world
  rw [one]
  split at post
  · exact post
  · exact post

/-- A board that has built nothing ends at once. -/
theorem endBoard_bare (fs : FileSystem φ F) (bare : s.1.installed = ∅) : (endBoard fs s).state = s := by
  have none : s.1.builtModules = [] := by
    unfold Board.builtModules
    rw [bare]
    rfl
  change (endModules fs s.1.builtModules s).state = s
  rw [none]
  rfl

/-! ### The start -/

/-- Asking a new board for a module: there is no offer and nothing has changed, or the board is at work
at the empty desk of a module with the backend of the offer. -/
inductive Start (fs : FileSystem φ F) (board : Board (Rig φ F)) (world : World φ) (kind : ModuleKind)
    (o : Outcome Complaint (Board (Rig φ F) × Rig φ F) ModuleRef) : Prop
  | absent (unoffered : board.offers.get? kind = none) (refused : ∃ c, o.answer = .error c)
    (same : o.state = (board, { world }))
  | built (offer : Offer (Rig φ F)) (x : AnyModule F) (offered : board.offers.get? kind = some offer)
    (own : x.kind = kind)
    (new : offer.build { world } = (⟨kind, 0⟩, { ({ world } : Rig φ F).seat 0 x with nextSerial := 1 }))
    (granted : o.answer = .ok ⟨kind, 0⟩)
    (atWork : AtWork fs ⟨kind, 0⟩ x (fun d => d = ⟨world, 1, ∅⟩) o.state)

/-- Nothing was built yet, and every offer adds a module. -/
structure New (board : Board (Rig φ F)) : Prop where
  bare : board.installed = ∅
  adds : ∀ kind o, board.offers.get? kind = some o → Board.Adds kind o

theorem new_ofPlatform (c : Configuration) (platform : Platform) :
    New (Board.ofPlatform c platform : Board (Rig φ F)) where
  bare := (Board.unused_ofPlatform c platform).bare
  adds := Board.adds_ofPlatform c platform

private theorem New.kinded {board : Board (Rig φ F)} (new : New board) : board.Kinded where
  offers kind o offered r := by
    obtain ⟨x, _, _, _, built⟩ := new.adds kind o offered r
    rw [built]
  installed kind i built := by
    rw [new.bare] at built
    cases built

theorem New.start {board : Board (Rig φ F)} (new : New board) (fs : FileSystem φ F)
    (world : World φ) (kind : ModuleKind) :
    Start fs board world kind (atBoard (Board.requestKind kind) (board, { world })) := by
  obtain ⟨answer, state⟩ := Board.requestKind_apply (s := (board, ({ world } : Rig φ F)))
    new.kinded kind
  have named := ModuleKind.ofName?_name kind
  cases offered : board.offers.get? kind with
  | none =>
    have unnamed : board.offerNamed? kind.name = none :=
      Board.offerNamed?_none fun kind' asks => by
        obtain rfl := Option.some.inj (named.symm.trans asks)
        exact offered
    rw [Board.request_absent unnamed] at answer state
    exact .absent offered ⟨_, congrArg (Except.mapError _) answer⟩ state
  | some o =>
    have unbuilt : board.installed.get? kind = none := by
      rw [new.bare]
      rfl
    obtain ⟨answer', state'⟩ := Board.request_first (s := (board, ({ world } : Rig φ F)))
      (Board.offerNamed?_some named offered) unbuilt
    obtain ⟨x, own, sound, keyless, built⟩ := new.adds kind o offered { world }
    rw [built] at answer' state'
    have leaseless : x.leases fs = ∅ :=
      ((x.sound_leases fs 1).mpr (sound 1)).eq_empty fun h => by rw [x.keyOf?_leases, keyless]
    refine .built o x offered own built (congrArg (Except.mapError _) (answer.trans answer')) ?_
    have same : x = x.relet fs ∅ := by rw [← leaseless, x.relet_leases]
    have after : (atBoard (Board.requestKind kind) (board, ({ world } : Rig φ F))).state = _ :=
      state.trans state'
    rw [after]
    refine ⟨⟨1, ?_⟩, ∅, ?_, ?_⟩
    · change board.installed.put kind _ = _
      rw [new.bare]
      rfl
    · have found := Rig.module?_seat 0 x ({ world } : Rig φ F) ⟨kind, 0⟩
      rw [if_pos (by rw [own])] at found
      refine Eq.trans ?_ (found.trans (congrArg some same))
      cases kind <;> rfl
    · cases x <;> rfl

end CommandLine

end Peripherals

import Peripherals.Gpio.Simulated
import Peripherals.Proofs.Estate.Ledger
/-!
Owners at an estate. Main statement: through every run each owner has its resource taken back at most
once, and never a resource of anybody else.
-/

set_option autoImplicit false

namespace Peripherals

namespace Estate

variable {W : Type} {m : Manager W} {e : Estate m} {h : Handle}

/-- What was asked to be taken back under a handle. -/
def about (e : Estate m) (h : Handle) : Returns :=
  e.asked.filter fun a => a.1 = h

private theorem handedBack_eq (e : Estate m) (h : Handle) :
    e.handedBack h = (e.about h).countP fun a => a.2.isOk := by
  unfold handedBack about
  rw [List.countP_filter]
  refine List.countP_congr fun a _ => ?_
  rw [Bool.and_comm]

/-- Once a resource was taken back for its owner, nobody asks for it again. -/
private theorem Ledger.about_step (ledger : ∀ h, e.Ledger h) (handed : 0 < e.handedBack h)
    (d : Dealing m) : (e.step d).about h = e.about h := by
  have apart {h₀ : Handle} {x : Owned m.Settings} (held : e.pins h₀ = some x)
      (unreleased : x.released = false) : h₀ ≠ h := by
    rintro rfl
    have released := ((ledger h₀).holder x held).2.2.mpr handed
    rw [unreleased] at released
    cases released
  have elsewhere {h₀ : Handle} (other : h₀ ≠ h) (r : Except Fault Unit) :
      (e.asked ++ [(h₀, r)]).filter (fun a => a.1 = h) = e.about h := by
    rw [List.filter_append, List.filter_singleton, decide_eq_false other]
    exact List.append_nil _
  cases d with
  | command k => rfl
  | drift f drawn => rfl
  | own c =>
    simp only [Estate.step]
    split
    · rfl
    · rfl
  | operate h₀ k about keeps =>
    simp only [Estate.step]
    split
    · rfl
    · rfl
  | giveBack h₀ =>
    rcases giveBack_cases (ledger h₀).handle_eq with same | ⟨x, held, unreleased, asks⟩
    · rw [same]
    · rw [asks]
      exact elsewhere (apart held unreleased) _
  | drop h₀ =>
    rcases drop_cases (ledger h₀).handle_eq with ⟨_, leaves⟩ | ⟨x, held, unreleased, asks⟩
    · rw [leaves]
      rfl
    · rw [asks]
      exact elsewhere (apart held unreleased) _

private theorem Ledger.about_run (ledger : ∀ h, e.Ledger h) (handed : 0 < e.handedBack h)
    (dealings : List (Dealing m)) : (e.run dealings).about h = e.about h := by
  induction dealings generalizing e with
  | nil => rfl
  | cons d dealings ih =>
    have same := Ledger.about_step ledger handed d
    have handed' : 0 < (e.step d).handedBack h := by
      rw [handedBack_eq, same, ← handedBack_eq]
      exact handed
    exact (ih (Ledger.step ledger d) handed').trans same

/-- In the course of a run no owner goes away while the device refuses its live resource. -/
def NoneStranded (e : Estate m) : List (Dealing m) → Prop
  | [] => True
  | d :: dealings =>
    (∀ h, d = .drop h → e.desk.Live h → (m.device.release h e.desk).answer = .ok ()) ∧
      (e.step d).NoneStranded dealings

private theorem noneStranded_of_obliging (rests : ∀ p, (m.device.rest p).answer = .ok ())
    (closes : ∀ p, (m.device.close p).answer = .ok ()) (e : Estate m) (dealings : List (Dealing m)) :
    e.NoneStranded dealings := by
  induction dealings generalizing e with
  | nil => trivial
  | cons d dealings ih =>
    refine ⟨fun h _ live => ?_, ih (e.step d)⟩
    obtain ⟨⟨key, lease⟩, slot⟩ := Desk.live_iff.mp live
    obtain ⟨answer, _⟩ := (m.device.windUp_apply (e.desk.device, lease)).2 (rests _)
    exact ((m.device.release_live slot).2 (answer.trans (closes _))).1

/-- Every live resource that was requested for an owner still has its owner. -/
def Cared (e : Estate m) : Prop :=
  ∀ h ∈ e.pinned, e.desk.Live h → ∃ x, e.pins h = some x

private theorem Cared.mono (cared : e.Cared) {e' : Estate m} (pinned : e'.pinned = e.pinned)
    (live : ∀ h ∈ e.pinned, e'.desk.Live h → e.desk.Live h)
    (pins : ∀ h x, e'.desk.Live h → e.pins h = some x → ∃ y, e'.pins h = some y) : e'.Cared := by
  intro h owned alive
  rw [pinned] at owned
  obtain ⟨x, held⟩ := cared h owned (live h owned alive)
  exact pins h x alive held

private theorem Cared.command (cared : e.Cared) (ledger : ∀ h, e.Ledger h) (k : m.Command) :
    Cared { e with desk := (m.perform k e.desk).state } :=
  cared.mono rfl (fun h owned live => (ledger h).live_before (.inr owned) live)
    fun _ x _ held => ⟨x, held⟩

private theorem Cared.own (cared : e.Cared) (ledger : ∀ h, e.Ledger h) (c : m.Config) :
    (e.step (.own c)).Cared := by
  simp only [Estate.step]
  split
  · next h₀ _ =>
    intro h owned live
    by_cases here : h = h₀
    · subst here
      exact ⟨_, Function.update_self ..⟩
    · have old := (List.mem_append.mp owned).resolve_right fun new => here (List.mem_singleton.mp new)
      obtain ⟨x, held⟩ := cared.command ledger (m.request c) h old live
      exact ⟨x, (Function.update_of_ne here ..).trans held⟩
  · exact cared.command ledger (m.request c)

private theorem Cared.giveBack (cared : e.Cared) (ledger : ∀ h, e.Ledger h) (h₀ : Handle) :
    (e.step (.giveBack h₀)).Cared := by
  rcases giveBack_cases (ledger h₀).handle_eq with same | ⟨x, _, _, asks⟩
  · rw [same]
    exact cared
  · rw [asks]
    refine cared.mono rfl (fun _ _ => live_of_release) fun h y _ held => ?_
    by_cases here : h = h₀
    · subst here
      exact ⟨_, Function.update_self ..⟩
    · exact ⟨y, (Function.update_of_ne here ..).trans held⟩

private theorem Cared.drop (cared : e.Cared) (ledger : ∀ h, e.Ledger h) {h₀ : Handle}
    (parted : e.desk.Live h₀ → (m.device.release h₀ e.desk).answer = .ok ()) :
    (e.step (.drop h₀)).Cared := by
  rcases drop_cases (ledger h₀).handle_eq with ⟨done, leaves⟩ | ⟨x, _, _, asks⟩
  · rw [leaves]
    refine cared.mono rfl (fun _ _ live => live) fun h y live held => ?_
    have elsewhere : h ≠ h₀ := by
      rintro rfl
      have handed := ((ledger h).holder y held).2.2.mp (done y held)
      exact ((ledger h).handed handed).2.2.2 live
    exact ⟨y, (Function.update_of_ne elsewhere ..).trans held⟩
  · rw [asks]
    refine cared.mono rfl (fun _ _ => live_of_release) fun h y live held => ?_
    -- The one dealing that could strand a resource: its owner goes, the device refuses to close it.
    have elsewhere : h ≠ h₀ := by
      rintro rfl
      exact not_live_of_released (parted (live_of_release live)) live
    exact ⟨y, (Function.update_of_ne elsewhere ..).trans held⟩

private theorem Cared.step (cared : e.Cared) (ledger : ∀ h, e.Ledger h) {d : Dealing m}
    (parted : ∀ h, d = .drop h → e.desk.Live h → (m.device.release h e.desk).answer = .ok ()) :
    (e.step d).Cared := by
  cases d with
  | command k => exact cared.command ledger k
  | own c => exact cared.own ledger c
  | operate h₀ k about keeps =>
    simp only [Estate.step]
    split
    · exact cared.command ledger k
    · exact cared
  | giveBack h₀ => exact cared.giveBack ledger h₀
  | drop h₀ => exact cared.drop ledger (parted h₀ rfl)
  | drift f drawn => exact cared

private theorem Cared.run (cared : e.Cared) (ledger : ∀ h, e.Ledger h) {dealings : List (Dealing m)}
    (parted : e.NoneStranded dealings) : (e.run dealings).Cared := by
  induction dealings generalizing e with
  | nil => exact cared
  | cons d dealings ih => exact ih (cared.step ledger parted.1) (Ledger.step ledger d) parted.2

/-- All owners have what is theirs taken back once, and nothing else. -/
structure OwnersProper (e : Estate m) : Prop where
  /-- What owners do is what the functions of owned resources do. -/
  owned : ∀ h x, e.pins h = some x →
    (e.step (.giveBack h)).desk = (x.release m.device e.desk).state ∧
      (e.step (.giveBack h)).pins h =
        some ((x.release m.device e.desk).answer.toOption.getD x) ∧
      (e.step (.drop h)).desk = (x.drop m.device e.desk).state
  /-- A resource is taken back for its owner at most once, and not if a caller had it taken back. -/
  once : ∀ h, e.handedBack h ≤ 1 ∧ (0 < e.handedBack h → ¬ e.Withdrawn h)
  /-- After a release that succeeded the owner calls the manager no more, and succeeds. -/
  settled : ∀ h x y, e.pins h = some x → (x.release m.device e.desk).answer = .ok y →
    ∀ later : List (Dealing m),
      let e' := (e.step (.giveBack h)).run later
      e'.about h = (e.step (.giveBack h)).about h ∧
        ∀ z, e'.pins h = some z → z.release m.device e'.desk = ⟨.ok z, [], e'.desk⟩ ∧
          z.drop m.device e'.desk = ⟨.ok (), [], e'.desk⟩
  /-- A release that the device refused leaves the handle live, and the owner tries again. -/
  refused : ∀ h x f, e.pins h = some x → e.desk.Live h →
    (x.release m.device e.desk).answer = .error f →
      let e' := e.step (.giveBack h)
      e'.pins h = some x ∧ e'.desk.Live h ∧
        (∀ h', e'.desk.leases.keyOf? h' = e.desk.leases.keyOf? h') ∧
        e'.asked = e.asked ++ [(h, .error f)] ∧
        (e'.step (.giveBack h)).asked =
          e'.asked ++ [(h, (m.device.release h e'.desk).answer)] ∧
        (e'.step (.drop h)).asked = e'.asked ++ [(h, (m.device.release h e'.desk).answer)]
  /-- An owner whose resource a caller had taken back leaves the desk alone, whatever it tries. -/
  withdrawn : ∀ h x, e.Withdrawn h → e.pins h = some x →
    x.release m.device e.desk = ⟨.error (.unknownHandle h), [], e.desk⟩ ∧
      (x.drop m.device e.desk).state = e.desk ∧
      ∀ k, m.handle? k = some h → (m.perform k e.desk).answer = .error (.unknownHandle h) ∧
        (m.perform k e.desk).state = e.desk

private theorem Ledger.settled (ledger : ∀ h, e.Ledger h) {x y : Owned m.Settings}
    (held : e.pins h = some x) (answer : (x.release m.device e.desk).answer = .ok y)
    (later : List (Dealing m)) :
    ((e.step (.giveBack h)).run later).about h = (e.step (.giveBack h)).about h ∧
      ∀ z, ((e.step (.giveBack h)).run later).pins h = some z → z.released = true := by
  have ledger' := Ledger.step ledger (.giveBack h)
  have kept := (step_owned held).2.1
  rw [answer] at kept
  have released : y.released = true := by
    cases before : x.released with
    | true =>
      rw [Owned.release_eq_releaseBy, Owned.releaseBy_released before] at answer
      obtain rfl := Except.ok.inj answer
      exact before
    | false =>
      rw [Owned.release_eq_releaseBy, (Owned.releaseBy_held _ before e.desk).1] at answer
      cases done : (m.device.release x.handle e.desk).answer with
      | error f =>
        rw [done] at answer
        cases answer
      | ok u =>
        rw [done] at answer
        obtain rfl := Except.ok.inj answer
        rfl
  have handed : 0 < (e.step (.giveBack h)).handedBack h :=
    ((ledger' h).holder y kept).2.2.mp released
  have same := Ledger.about_run ledger' handed later
  refine ⟨same, fun z held' => ?_⟩
  refine ((Ledger.run ledger' later h).holder z held').2.2.mpr ?_
  rw [handedBack_eq, same, ← handedBack_eq]
  exact handed

private theorem Ledger.refused (ledger : ∀ h, e.Ledger h) {x : Owned m.Settings} {f : Fault}
    (held : e.pins h = some x) (live : e.desk.Live h)
    (answer : (x.release m.device e.desk).answer = .error f) :
    x.released = false ∧ (m.device.release h e.desk).answer = .error f ∧
      (e.step (.giveBack h)).pins h = some x ∧
      ∀ h', (e.step (.giveBack h)).desk.leases.keyOf? h' = e.desk.leases.keyOf? h' := by
  obtain ⟨own, _, handed⟩ := (ledger h).holder x held
  have unreleased : x.released = false := by
    refine Bool.eq_false_iff.mpr fun released => ?_
    exact ((ledger h).handed (handed.mp released)).2.2.2 live
  have kept := (step_owned held).2.1
  rw [answer] at kept
  rw [Owned.release_eq_releaseBy, (Owned.releaseBy_held _ unreleased e.desk).1, own] at answer
  have failed : (m.device.release h e.desk).answer = .error f := by
    cases done : (m.device.release h e.desk).answer with
    | error g =>
      rw [done] at answer
      exact congrArg _ (Except.error.inj answer)
    | ok u =>
      rw [done] at answer
      cases answer
  refine ⟨unreleased, failed, kept, ?_⟩
  rw [giveBack_held held own unreleased]
  rcases m.device.release_cases h e.desk with ⟨done, _⟩ | ⟨_, keys⟩
  · rw [failed] at done
    cases done
  · exact keys

private theorem Ledger.withdrawn_owner (ledger : ∀ h, e.Ledger h) {x : Owned m.Settings}
    (held : e.pins h = some x) (gone : e.Withdrawn h) :
    x.release m.device e.desk = ⟨.error (.unknownHandle h), [], e.desk⟩ ∧
      (x.drop m.device e.desk).state = e.desk ∧
      ∀ k, m.handle? k = some h → (m.perform k e.desk).answer = .error (.unknownHandle h) ∧
        (m.perform k e.desk).state = e.desk := by
  obtain ⟨own, _, handed⟩ := (ledger h).holder x held
  have unreleased : x.released = false := by
    refine Bool.eq_false_iff.mpr fun released => ?_
    exact ((ledger h).handed (handed.mp released)).2.2.1 gone
  have dead : e.desk.leases.slots.get? h = none := by
    by_contra found
    obtain ⟨p, slot⟩ := Option.ne_none_iff_exists'.mp found
    exact ((ledger h).withdrawn gone).2 (Desk.live_iff.mpr ⟨p, slot⟩)
  have unknown := m.device.release_unknown dead
  refine ⟨?_, ?_, fun k about => ?_⟩
  · rw [Owned.release_eq_releaseBy]
    unfold Owned.releaseBy
    rw [if_neg (Bool.eq_false_iff.mp unreleased), own, Action.bind_apply, unknown]
  · rw [Owned.drop_eq_dropBy, (Owned.dropBy_held _ m.device unreleased e.desk).2, own, unknown]
  · exact (m.course k e.desk).of_dead ((m.handle?_errand k).trans about) dead

private theorem Ledger.left (ledger : ∀ h, e.Ledger h) (cared : e.Cared) (none : ∀ h, e.pins h = none)
    (h : Handle) : e.desk.Live h ↔ e.Direct h ∧ ¬ e.Withdrawn h := by
  have l := ledger h
  constructor
  · intro live
    refine ⟨(l.known live).resolve_right fun owned => ?_, (l.untouched live).2⟩
    obtain ⟨x, held⟩ := cared h owned live
    exact nomatch (none h).symm.trans held
  · rintro ⟨direct, kept⟩
    by_contra dead
    rcases l.gone (.inl direct) dead with handed | gone
    · exact l.apart direct (l.handed handed).1
    · exact kept gone

end Estate

/-- Over every device and through every run in which owners and other callers use one manager, each
owner has its resource taken back at most once; after a release that succeeded it calls the manager no
more; a release that the device refused leaves the handle live; and an owner whose resource a caller
had taken back leaves the desk alone. If no owner went away while the device refused, as when it never
does, and all owners are gone, the live handles are those that callers requested and did not
release. -/
theorem owners_release_once {W : Type} (m : Manager W) (world : W) (counter : Nat)
    (dealings : List (Dealing m)) :
    let start := Estate.start m world counter
    let e := start.run dealings
    e.OwnersProper ∧
      ((∀ p, (m.device.rest p).answer = .ok ()) → (∀ p, (m.device.close p).answer = .ok ()) →
        start.NoneStranded dealings) ∧
      (start.NoneStranded dealings → (∀ h, e.pins h = none) →
        ∀ h, e.desk.Live h ↔ e.Direct h ∧ ¬ e.Withdrawn h) := by
  intro start e
  have first : ∀ h, start.Ledger h := Estate.ledger_start m world counter
  have ledger : ∀ h, e.Ledger h := Estate.Ledger.run first dealings
  refine ⟨⟨fun h x held => Estate.step_owned held, ?_, ?_, ?_, ?_⟩, ?_, ?_⟩
  · intro h
    refine ⟨?_, fun handed => ((ledger h).handed handed).2.2.1⟩
    by_contra more
    have one := ((ledger h).handed (by omega)).2.1
    omega
  · intro h x y held answer later
    obtain ⟨same, released⟩ := Estate.Ledger.settled ledger held answer later
    refine ⟨same, fun z held' => ?_⟩
    rw [Owned.release_eq_releaseBy, Owned.drop_eq_dropBy]
    exact ⟨Owned.releaseBy_released (released z held') _,
      Owned.dropBy_released m.device (released z held') _⟩
  · intro h x f held live answer
    obtain ⟨unreleased, failed, kept, keys⟩ := Estate.Ledger.refused ledger held live answer
    have own := ((ledger h).holder x held).1
    refine ⟨kept, (Estate.live_of_keys keys h).mpr live, keys, ?_, ?_, ?_⟩
    · rw [Estate.giveBack_held held own unreleased, failed]
    · rw [Estate.giveBack_held kept own unreleased]
    · rw [Estate.drop_held kept own unreleased]
  · exact fun h x gone held => Estate.Ledger.withdrawn_owner ledger held gone
  · exact fun rests closes => Estate.noneStranded_of_obliging rests closes start dealings
  · intro parted none
    have cared : start.Cared := fun h owned => nomatch owned
    exact Estate.Ledger.left ledger (cared.run first parted) none

/-- An owner whose line was taken back, and requested anew by a caller, leaves the line to the caller. -/
theorem line_of_later_caller :
    let m : Manager Gpio.Lines := .gpio Gpio.Lines.driver
    let dealings : List (Dealing m) := [.own (Gpio.Config.input 4),
      .command (Gpio.Command.release ⟨1⟩), .command (Gpio.Command.request (.input 4)),
      .giveBack ⟨1⟩, .drop ⟨1⟩]
    let e := (Estate.start m {} 1).run dealings
    e.asked.length = 2 ∧ e.handedBack ⟨1⟩ = 0 ∧ e.desk.leases.keyOf? ⟨2⟩ = some 4 ∧
      e.OwnersProper := by
  intro m dealings e
  refine ⟨by decide +kernel, by decide +kernel, by decide +kernel, ?_⟩
  exact (owners_release_once m {} 1 dealings).1

end Peripherals

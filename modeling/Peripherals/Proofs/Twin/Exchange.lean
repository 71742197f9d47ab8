import Mathlib.Logic.Equiv.Basic
import Peripherals.Proofs.Twin.Excerpt
/-!
Exchanges. Two neighbours in a run that concern different keys can change places: the handles that they
give out change places too, and with these under their new numbers all is answered as before and every
key ends as before.
-/

set_option autoImplicit false

namespace Peripherals

private theorem Adc.Command.redirect_congr {ρ ρ' : Handle → Handle} {k : Adc.Command}
    (same : ∀ h, k.handle? = some h → ρ h = ρ' h) : k.redirect ρ = k.redirect ρ' := by
  cases k <;> simp_all [redirect, handle?]

private theorem Gpio.Command.redirect_congr {ρ ρ' : Handle → Handle} {k : Gpio.Command}
    (same : ∀ h, k.handle? = some h → ρ h = ρ' h) : k.redirect ρ = k.redirect ρ' := by
  cases k <;> simp_all [redirect, handle?]

private theorem Pwm.Command.redirect_congr {ρ ρ' : Handle → Handle} {k : Pwm.Command}
    (same : ∀ h, k.handle? = some h → ρ h = ρ' h) : k.redirect ρ = k.redirect ρ' := by
  cases k <;> simp_all [redirect, handle?]

namespace Manager

variable {W V τ : Type} {m : Manager W} (preset : UInt32 → V → W → W)

/-- All handles that are given out for the key in the course of a run. -/
def issuedFor (key : UInt32) : List (Occurrence m.Command (UInt32 × V)) →
    Desk W m.Settings m.Channel → List Handle
  | [], _ => []
  | o :: os, d => issued key o (m.happen preset o d).answer ++ issuedFor key os (m.happen preset o d).state

/-- Where the handles go when two neighbours change places, each of which gives out these handles: if
both give one out, the two change places. -/
def exchanged : List Handle → List Handle → Handle → Handle
  | [h], [h'] => Equiv.swap h h'
  | _, _ => id

private theorem exchanged_injective (given given' : List Handle) :
    Function.Injective (exchanged given given') := by
  unfold exchanged
  split
  · exact Equiv.injective _
  · exact Function.injective_id

private theorem exchanged_of_other {given given' : List Handle} {h : Handle} (other : h ∉ given)
    (other' : h ∉ given') : exchanged given given' h = h := by
  unfold exchanged
  split
  · exact Equiv.swap_apply_of_ne_of_ne (List.ne_of_not_mem_cons other) (List.ne_of_not_mem_cons other')
  · rfl

private theorem exchanged_sends {next one other : Nat} {more more' : List (Handle × Handle)}
    (few : more = [] ∨ more = [(⟨next⟩, ⟨other⟩)]) (few' : more' = [] ∨ more' = [(⟨one⟩, ⟨next⟩)])
    (count : one = next + more.length) (count' : other = next + more'.length) :
    ∀ p ∈ more ++ more', exchanged (more.map Prod.fst) (more'.map Prod.fst) p.1 = p.2 := by
  rcases few with rfl | rfl <;> rcases few' with rfl | rfl
  · exact fun p none => nomatch none
  · exact List.forall_mem_singleton.mpr (congrArg Handle.mk count)
  · exact List.forall_mem_singleton.mpr (congrArg Handle.mk count'.symm)
  · have there : Equiv.swap (⟨next⟩ : Handle) ⟨one⟩ ⟨next⟩ = ⟨other⟩ :=
      (Equiv.swap_apply_left _ _).trans (congrArg Handle.mk (count.trans count'.symm))
    exact List.forall_mem_cons.mpr ⟨there, List.forall_mem_singleton.mpr (Equiv.swap_apply_right _ _)⟩

/-! ### Commands under other numbers -/

private theorem redirect_congr {ρ ρ' : Handle → Handle} {k : m.Command}
    (same : ∀ h, m.handle? k = some h → ρ h = ρ' h) : m.redirect ρ k = m.redirect ρ' k := by
  cases m with
  | adc driver => exact Adc.Command.redirect_congr same
  | gpio driver => exact Gpio.Command.redirect_congr same
  | pwm driver => exact Pwm.Command.redirect_congr same

theorem redirect_id (k : m.Command) : m.redirect id k = k := by
  cases m with
  | adc driver => cases k <;> rfl
  | gpio driver => cases k <;> rfl
  | pwm driver => cases k <;> rfl

private theorem handle?_redirect (ρ : Handle → Handle) (k : m.Command) :
    m.handle? (m.redirect ρ k) = (m.handle? k).map ρ := by
  rw [← m.handle?_errand, m.errand_redirect, Errand.handle?_redirect, m.handle?_errand]

private theorem key?_redirect (ρ : Handle → Handle) (k : m.Command) : m.key?
    (m.redirect ρ k) = m.key? k := by
  cases m with
  | adc driver => cases k <;> rfl
  | gpio driver => cases k <;> rfl
  | pwm driver => cases k <;> rfl

private theorem concerns_redirect {ρ : Handle → Handle} (injective : Function.Injective ρ)
    (key : UInt32)
    (mine : List Handle) (o : Occurrence m.Command (UInt32 × V)) :
    concerns key (mine.map ρ) (o.mapCommand (m.redirect ρ)) = concerns key mine o := by
  cases o with
  | outside e => rfl
  | command k =>
    simp only [concerns, Occurrence.mapCommand, key?_redirect, handle?_redirect]
    cases m.handle? k with
    | none => rfl
    | some h => simp only [Option.map_some, Option.any_some, List.mem_map_of_injective injective]

/-! ### Desks that are the same for every key -/

/-- For every key the desks are the same, up to the numbers of the handles that were given out for it. -/
structure Alike (v : Outlook W m.Channel τ) (mine : UInt32 → List Handle) (ρ : Handle → Handle)
    (d d' : Desk W m.Settings m.Channel) : Prop where
  counter : d'.counter = d.counter
  injective : Function.Injective ρ
  beyond : ∀ h, d.counter ≤ h.number → ρ h = h
  apart : ∀ key key' h, h ∈ mine key → h ∈ mine key' → key = key'
  twins : ∀ key, Twin v key ((mine key).map fun h => (h, ρ h)) d d'

variable {preset} {v : Outlook W m.Channel τ} {mine : UInt32 → List Handle} {ρ : Handle → Handle}
  {d d' : Desk W m.Settings m.Channel}

private theorem fst_pairs (hs : List Handle) (ρ : Handle → Handle) :
    (hs.map fun h => (h, ρ h)).map Prod.fst = hs := by
  rw [List.map_map]
  exact List.map_id hs

private theorem snd_pairs (hs : List Handle) (ρ : Handle → Handle) :
    (hs.map fun h => (h, ρ h)).map Prod.snd = hs.map ρ := by
  rw [List.map_map]
  rfl

private theorem pairs_append {hs : List Handle} {more : List (Handle × Handle)} {ρ : Handle → Handle}
    (fixed : ∀ h ∈ hs, ρ h = h) (sends : ∀ p ∈ more, ρ p.1 = p.2) :
    (hs ++ more.map Prod.fst).map (fun h => (h, ρ h)) = hs.map (fun h => (h, id h)) ++ more := by
  have old : hs.map (fun h => (h, ρ h)) = hs.map (fun h => (h, id h)) :=
    List.map_congr_left fun h known => by rw [fixed h known, id]
  have new : (more.map Prod.fst).map (fun h => (h, ρ h)) = more := by
    rw [List.map_map]
    refine (List.map_congr_left fun p known => ?_).trans (List.map_id more)
    exact Prod.ext rfl (sends p known)
  rw [List.map_append, old, new]

theorem Alike.vacant {s : W} (fit : v.fit s) (counter : Nat) :
    Alike v (fun _ => []) id (Desk.vacant s counter : Desk W m.Settings m.Channel)
      (Desk.vacant s counter) where
  counter := rfl
  injective := Function.injective_id
  beyond _ _ := rfl
  apart _ _ _ member := nomatch member
  twins _ := .vacant fit counter counter

private theorem Alike.below (alike : Alike v mine ρ d d') {key : UInt32} {h : Handle}
    (member : h ∈ mine key) :
    h.number < d.counter :=
  ((alike.twins key).old _ (List.mem_map_of_mem member)).1

private theorem asked_of_issued {key : UInt32} {o : Occurrence m.Command (UInt32 × V)}
    {reply : Except Fault (Option m.Answer)} {h : Handle} (given : h ∈ issued key o reply) :
    ∃ k, o = .command k ∧ m.key? k = some key := by
  cases o with
  | outside e => cases given
  | command k =>
    refine ⟨k, rfl, ?_⟩
    by_contra foreign
    rw [issued_of_foreign foreign] at given
    cases given

private theorem of_issued {key : UInt32} {o : Occurrence m.Command (UInt32 × V)} {h : Handle}
    (given : h ∈ issued key o (m.happen preset o d).answer) :
    h = ⟨d.counter⟩ ∧ (m.happen preset o d).state.counter = d.counter + 1 := by
  obtain ⟨k, rfl, asked⟩ := asked_of_issued given
  have course := m.happen_course preset k d
  rw [happen_answer] at given
  rcases course.counter_eq with ⟨_, ok, counter⟩ | ⟨failed, _⟩
  · rw [ok] at given
    change h ∈ (if m.key? k = some key then (m.granted? (m.granted ⟨d.counter⟩)).toList else []) at given
    rw [if_pos asked, m.granted?_granted] at given
    exact ⟨List.mem_singleton.mp given, counter⟩
  · obtain ⟨f, answer⟩ := failed (Errand.handle?_of_key? ((m.errand_key? k).trans asked))
    rw [answer] at given
    change h ∈ issued key (.command k) (.error f) at given
    rw [issued_of_error] at given
    cases given

private theorem handle?_of_unasked {k : m.Command}
    (unasked : m.key? k = none) : ∃ h, m.handle? k = some h := by
  cases m with
  | adc driver => cases k <;> first | exact ⟨_, rfl⟩ | cases unasked
  | gpio driver => cases k <;> first | exact ⟨_, rfl⟩ | cases unasked
  | pwm driver => cases k <;> first | exact ⟨_, rfl⟩ | cases unasked

/-- An occurrence and its renumbering, as far as one key goes. -/
private theorem Alike.step_at (here : m.Local v) (presets : Presets v preset)
    (alike : Alike v mine ρ d d')
    (o : Occurrence m.Command (UInt32 × V)) (key : UInt32) :
    let r := m.happen preset o d
    let r' := m.happen preset (o.mapCommand (m.redirect ρ)) d'
    Twin v key ((mine key ++ issued key o r.answer).map fun h => (h, ρ h)) r.state r'.state ∧
      (concerns key (mine key) o = true →
        r'.answer = renumbered ρ r.answer ∧ r'.state.counter = r.state.counter) := by
  intro r r'
  have twin := alike.twins key
  cases about : concerns key (mine key) o with
  | false =>
    obtain ⟨none_issued, left⟩ := here.apart presets twin (by rw [fst_pairs, about])
    have both := here.apart_right presets left (o := o.mapCommand (m.redirect ρ))
      (by rw [snd_pairs, concerns_redirect alike.injective, about])
    refine ⟨?_, fun absurd => nomatch absurd⟩
    rw [show issued key o r.answer = [] from none_issued, List.append_nil]
    exact both
  | true =>
    obtain ⟨more, few, issues, after, counter, counter', same⟩ := here.both presets twin
      (by rw [fst_pairs, about]) (ρ := ρ) (by
        intro p member
        obtain ⟨h, _, rfl⟩ := List.mem_map.mp member
        rfl)
    have agree : more = (more.map Prod.fst).map fun h => (h, ρ h) := by
      rcases few with rfl | rfl
      · rfl
      · -- The new handles are the same, and beyond those that are renumbered.
        rw [alike.counter]
        change _ = [((⟨d.counter⟩ : Handle), ρ ⟨d.counter⟩)]
        rw [alike.beyond ⟨d.counter⟩ (Nat.le_refl _)]
    refine ⟨?_, fun _ => ⟨same fun p member => ?_, ?_⟩⟩
    · rw [show issued key o r.answer = _ from issues, List.map_append, ← agree]
      exact after
    · rw [agree] at member
      obtain ⟨h, _, rfl⟩ := List.mem_map.mp member
      rfl
    · rw [show r'.state.counter = _ from counter', show r.state.counter = _ from counter, alike.counter]

private theorem Alike.unknown (alike : Alike v mine ρ d d') {k : m.Command} {h : Handle}
    (about : m.handle? k = some h) (unissued : ∀ key, h ∉ mine key) :
    let r := m.happen preset (.command k) d
    let r' := m.happen preset (.command (m.redirect ρ k)) d'
    r'.answer = renumbered ρ r.answer ∧ r'.state.counter = r.state.counter := by
  intro r r'
  have dead : d.leases.slots.get? h = none := by
    refine Option.eq_none_iff_forall_ne_some.mpr fun entry live => ?_
    obtain ⟨h', member⟩ := (alike.twins entry.1).covered h entry.2 live
    obtain ⟨g, known, same⟩ := List.mem_map.mp member
    obtain ⟨rfl, _⟩ := Prod.mk.inj same
    exact unissued _ known
  have dead' : d'.leases.slots.get? (ρ h) = none := by
    refine Option.eq_none_iff_forall_ne_some.mpr fun entry live => ?_
    obtain ⟨h', member⟩ := (alike.twins entry.1).covered' (ρ h) entry.2 live
    obtain ⟨g, known, same⟩ := List.mem_map.mp member
    obtain rfl := alike.injective (Prod.mk.inj same).2
    exact unissued _ known
  have about' : m.handle? (m.redirect ρ k) = some (ρ h) := by
    rw [handle?_redirect, about]
    rfl
  obtain ⟨answer, state⟩ := (m.happen_course preset k d).of_dead ((m.handle?_errand k).trans about) dead
  obtain ⟨answer', state'⟩ := (m.happen_course preset (m.redirect ρ k) d').of_dead
    ((m.handle?_errand _).trans about') dead'
  constructor
  · rw [show r.answer = _ from happen_answer preset k d, answer,
      show r'.answer = _ from happen_answer preset (m.redirect ρ k) d', answer']
    rfl
  · rw [show r'.state = _ from state', show r.state = _ from state, alike.counter]

private theorem counter_le_happen (o : Occurrence m.Command (UInt32 × V))
    (d : Desk W m.Settings m.Channel) :
    d.counter ≤ (m.happen preset o d).state.counter := by
  cases o with
  | outside e => exact Nat.le_refl _
  | command k =>
    rcases (m.happen_course preset k d).counter_eq with ⟨_, _, counter⟩ | ⟨_, counter⟩ <;> omega

/-- What happens at the one desk, and its renumbering at the other. -/
private theorem Alike.step (here : m.Local v) (presets : Presets v preset) (alike : Alike v mine ρ d d')
    (o : Occurrence m.Command (UInt32 × V)) :
    let r := m.happen preset o d
    let r' := m.happen preset (o.mapCommand (m.redirect ρ)) d'
    r'.answer = renumbered ρ r.answer ∧
      Alike v (fun key => mine key ++ issued key o r.answer) ρ r.state r'.state := by
  intro r r'
  have same : r'.answer = renumbered ρ r.answer ∧ r'.state.counter = r.state.counter := by
    by_cases concerned : ∃ key, concerns key (mine key) o = true
    · obtain ⟨key, about⟩ := concerned
      exact (alike.step_at here presets o key).2 about
    · cases o with
      | outside e => exact absurd ⟨e.1, decide_eq_true rfl⟩ concerned
      | command k =>
        have unasked : m.key? k = none := by
          refine Option.eq_none_iff_forall_ne_some.mpr fun key asked => concerned ⟨key, ?_⟩
          exact concerns_command.mpr (.inl ((m.errand_key? k).trans asked))
        obtain ⟨h, about⟩ := handle?_of_unasked unasked
        refine alike.unknown about fun key member => concerned ⟨key, ?_⟩
        exact concerns_command.mpr (.inr ⟨h, member, (m.handle?_errand k).trans about⟩)
  refine ⟨same.1, same.2, alike.injective, fun h later => alike.beyond h ?_, ?_, fun key =>
    (alike.step_at here presets o key).1⟩
  · exact Nat.le_trans (counter_le_happen o d) later
  · intro key key' h member member'
    rcases List.mem_append.mp member with old | new <;> rcases List.mem_append.mp member' with old' | new'
    · exact alike.apart key key' h old old'
    · obtain ⟨rfl, _⟩ := of_issued new'
      exact absurd (alike.below old) (Nat.lt_irrefl _)
    · obtain ⟨rfl, _⟩ := of_issued new
      exact absurd (alike.below old') (Nat.lt_irrefl _)
    · obtain ⟨k, rfl, asked⟩ := asked_of_issued new
      obtain ⟨_, same, asked'⟩ := asked_of_issued new'
      cases same
      exact Option.some.inj (asked.symm.trans asked')

theorem Alike.run (here : m.Local v) (presets : Presets v preset) (alike : Alike v mine ρ d d')
    (os : List (Occurrence m.Command (UInt32 × V))) :
    Action.replies (m.happen preset) (os.map (Occurrence.mapCommand (m.redirect ρ))) d' =
        (Action.replies (m.happen preset) os d).map (renumbered ρ) ∧
      Alike v (fun key => mine key ++ issuedFor preset key os d) ρ
        (Action.runAll (m.happen preset) os d)
        (Action.runAll (m.happen preset) (os.map (Occurrence.mapCommand (m.redirect ρ))) d') := by
  induction os generalizing mine d d' with
  | nil =>
    refine ⟨rfl, ?_⟩
    simp only [issuedFor, List.append_nil]
    exact alike
  | cons o os ih =>
    obtain ⟨reply, after⟩ := alike.step here presets o
    obtain ⟨rest, last⟩ := ih after
    refine ⟨congrArg₂ List.cons reply rest, ?_⟩
    simp only [issuedFor, ← List.append_assoc]
    exact last

/-! ### Neighbours -/

private theorem Alike.one_key (alike : Alike v mine ρ d d') {o : Occurrence m.Command (UInt32 × V)}
    {key key' : UInt32} (about : concerns key (mine key) o = true)
    (about' : concerns key' (mine key') o = true) : key = key' := by
  cases o with
  | outside e => exact (of_decide_eq_true about).symm.trans (of_decide_eq_true about')
  | command k =>
    rcases concerns_command.mp about with asked | ⟨h, known, handle⟩ <;>
      rcases concerns_command.mp about' with asked' | ⟨h', known', handle'⟩
    · exact Option.some.inj (asked.symm.trans asked')
    · rw [Errand.handle?_of_key? asked] at handle'
      cases handle'
    · rw [Errand.handle?_of_key? asked'] at handle
      cases handle
    · obtain rfl := Option.some.inj (handle.symm.trans handle')
      exact alike.apart key key' h known known'

private theorem Alike.concerns_later (alike : Alike v mine ρ d d')
    {o : Occurrence m.Command (UInt32 × V)}
    {key : UInt32} (about : concerns key (mine key) o = true) {later : List Handle}
    (new : ∀ h ∈ later, d.counter ≤ h.number) (key' : UInt32) :
    concerns key' (mine key' ++ later) o = concerns key' (mine key') o := by
  cases o with
  | outside e => rfl
  | command k =>
    refine Bool.eq_iff_iff.mpr ?_
    rw [concerns_command, concerns_command]
    refine or_congr_right (exists_congr fun h => and_congr_left fun handle => ?_)
    rw [List.mem_append, or_iff_left]
    intro given
    rcases concerns_command.mp about with asked | ⟨g, known, handle'⟩
    · rw [Errand.handle?_of_key? asked] at handle
      cases handle
    · obtain rfl := Option.some.inj (handle.symm.trans handle')
      exact absurd (new h given) (Nat.not_le_of_lt (alike.below known))

private theorem mapCommand_of_fixed {o : Occurrence m.Command (UInt32 × V)} {key : UInt32}
    {mine : List Handle}
    (about : concerns key mine o = true) {ρ : Handle → Handle} (fixed : ∀ h ∈ mine, ρ h = h) :
    o.mapCommand (m.redirect ρ) = o := by
  cases o with
  | outside e => rfl
  | command k =>
    refine congrArg Occurrence.command ((redirect_congr fun h handle => ?_).trans (redirect_id k))
    rw [← m.handle?_errand] at handle
    rcases concerns_command.mp about with asked | ⟨g, known, handle'⟩
    · rw [Errand.handle?_of_key? asked] at handle
      cases handle
    · obtain rfl := Option.some.inj (handle.symm.trans handle')
      exact fixed h known

private theorem Alike.exchanged_of_old (alike : Alike v mine id d d) {key : UInt32} {h : Handle}
    (known : h ∈ mine key) (a b : Occurrence m.Command (UInt32 × V)) (ka kb : UInt32) :
    exchanged (issued ka a (m.happen preset a d).answer)
      (issued kb b (m.happen preset b (m.happen preset a d).state).answer) h = h := by
  have below := alike.below known
  refine exchanged_of_other (fun given => ?_) fun given => ?_
  · rw [(of_issued given).1] at below
    exact Nat.lt_irrefl _ below
  · rw [(of_issued given).1] at below
    exact Nat.not_le_of_lt below (counter_le_happen a d)

private theorem exchanged_of_later (a b : Occurrence m.Command (UInt32 × V)) (ka kb : UInt32)
    {h : Handle}
    (later : (m.happen preset b (m.happen preset a d).state).state.counter ≤ h.number) :
    exchanged (issued ka a (m.happen preset a d).answer)
      (issued kb b (m.happen preset b (m.happen preset a d).state).answer) h = h := by
  have onward : _ ≤ (m.happen preset b (m.happen preset a d).state).state.counter :=
    counter_le_happen b _
  refine exchanged_of_other (fun given => ?_) fun given => ?_
  · obtain ⟨rfl, drawn⟩ := of_issued given
    rw [drawn] at onward
    exact Nat.not_succ_le_self _ (Nat.le_trans onward later)
  · obtain ⟨rfl, drawn⟩ := of_issued given
    rw [drawn] at later
    exact Nat.not_succ_le_self _ later

private theorem Alike.bystander (here : m.Local v) (presets : Presets v preset)
    (alike : Alike v mine id d d)
    {a b : Occurrence m.Command (UInt32 × V)} {key : UInt32}
    (quiet : concerns key (mine key) a = false) (quiet' : concerns key (mine key) b = false) :
    issued key a (m.happen preset a d).answer = [] ∧
      issued key b (m.happen preset b (m.happen preset a d).state).answer = [] ∧
      Twin v key ((mine key).map fun h => (h, id h))
        (m.happen preset b (m.happen preset a d).state).state
        (m.happen preset a (m.happen preset b d).state).state := by
  obtain ⟨none_first, twin⟩ := here.apart presets (alike.twins key) (o := a) (by rw [fst_pairs, quiet])
  obtain ⟨none_second, twin⟩ := here.apart presets twin (o := b) (by rw [fst_pairs, quiet'])
  have twin := here.apart_right presets twin (o := b) (by rw [snd_pairs, List.map_id, quiet'])
  exact ⟨none_first, none_second,
    here.apart_right presets twin (o := a) (by rw [snd_pairs, List.map_id, quiet])⟩

/-- Neighbours that concern different keys change places. -/
theorem Alike.exchange (here : m.Local v) (presets : Presets v preset) (alike : Alike v mine id d d)
    {a b : Occurrence m.Command (UInt32 × V)} {ka kb : UInt32} (differ : ka ≠ kb)
    (about : concerns ka (mine ka) a = true) (about' : concerns kb (mine kb) b = true) :
    let ra := m.happen preset a d
    let rb := m.happen preset b ra.state
    let sb := m.happen preset b d
    let sa := m.happen preset a sb.state
    let ρ := exchanged (issued ka a ra.answer) (issued kb b rb.answer)
    sa.answer = renumbered ρ ra.answer ∧ sb.answer = renumbered ρ rb.answer ∧
      Alike v (fun key => mine key ++ issued key a ra.answer ++ issued key b rb.answer) ρ
        rb.state sa.state := by
  intro ra rb sb sa ρ
  have quiet (key : UInt32) (other : key ≠ ka) : concerns key (mine key) a = false :=
    Bool.eq_false_iff.mpr fun same => other (alike.one_key same about)
  have quiet' (key : UInt32) (other : key ≠ kb) : concerns key (mine key) b = false :=
    Bool.eq_false_iff.mpr fun same => other (alike.one_key same about')
  have fixed (key : UInt32) (h : Handle) (known : h ∈ mine key) : ρ h = h :=
    alike.exchanged_of_old known a b ka kb
  have agree (key : UInt32) : ∀ p ∈ (mine key).map fun h => (h, id h), ρ p.1 = p.2 := by
    intro p member
    obtain ⟨h, known, rfl⟩ := List.mem_map.mp member
    exact fixed key h known
  have ids (key : UInt32) : ((mine key).map fun h => (h, id h)).map Prod.snd = mine key := by
    rw [snd_pairs, List.map_id]
  have first := here.apart_right presets (alike.twins ka) (o := b) (by rw [ids, quiet' ka differ])
  obtain ⟨more, few, issues, first, count, count', same⟩ := here.both presets first (o := a)
    (by rw [fst_pairs, about]) (agree ka)
  rw [mapCommand_of_fixed about (fixed ka)] at first count' same
  obtain ⟨unissued, second⟩ := here.apart presets (alike.twins kb) (o := a)
    (by rw [fst_pairs, quiet kb differ.symm])
  obtain ⟨more', few', issues', second, count₂, count₂', same'⟩ := here.both presets second (o := b)
    (by rw [fst_pairs, about']) (agree kb)
  rw [mapCommand_of_fixed about' (fixed kb)] at second count₂' same'
  have sends : ∀ p ∈ more ++ more', ρ p.1 = p.2 := by
    rw [show ρ = exchanged (more.map Prod.fst) (more'.map Prod.fst) by rw [← issues, ← issues']]
    exact exchanged_sends few few' count count₂'
  obtain ⟨sends, sends'⟩ := List.forall_mem_append.mp sends
  refine ⟨same sends, same' sends', ?_, exchanged_injective _ _,
    fun h later => exchanged_of_later a b ka kb later, ?_, fun key => ?_⟩
  · rw [show sa.state.counter = _ from count', show sb.state.counter = _ from count₂',
      show rb.state.counter = _ from count₂, show ra.state.counter = _ from count]
    omega
  · exact ((alike.step here presets a).2.step here presets b).2.apart
  · by_cases of_first : key = ka
    · subst of_first
      have new : ∀ h ∈ more.map Prod.fst, d.counter ≤ h.number := fun h given =>
        Nat.le_of_eq (congrArg Handle.number (of_issued (issues ▸ given)).1).symm
      obtain ⟨unissued', both⟩ := here.apart presets first (o := b)
        (by rw [List.map_append, fst_pairs, alike.concerns_later about' new, quiet' key differ])
      rw [show issued key b rb.answer = [] from unissued', List.append_nil,
        show issued key a ra.answer = _ from issues, pairs_append (fixed key) sends]
      exact both
    · by_cases of_second : key = kb
      · subst of_second
        have new : ∀ h ∈ more'.map Prod.snd, d.counter ≤ h.number := by
          rcases few' with rfl | rfl
          · exact fun h none => nomatch none
          · exact List.forall_mem_singleton.mpr (Nat.le_refl _)
        have both := here.apart_right presets second (o := a)
          (by rw [List.map_append, ids, alike.concerns_later about new, quiet key of_first])
        rw [show issued key a ra.answer = [] from unissued, List.append_nil,
          show issued key b rb.answer = _ from issues', pairs_append (fixed key) sends']
        exact both
      · obtain ⟨none_first, none_second, twin⟩ := alike.bystander here presets (quiet key of_first)
          (quiet' key of_second)
        rw [show issued key a ra.answer = [] from none_first, List.append_nil,
          show issued key b rb.answer = [] from none_second, List.append_nil,
          List.map_congr_left fun h known => by rw [fixed key h known]]
        exact twin

end Manager

end Peripherals

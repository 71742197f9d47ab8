import Peripherals.Proofs.Desk.Outside
import Peripherals.Proofs.Twin.Step
/-!
Runs and their excerpts. At a desk of simulated resources commands are carried out, and someone else
presets the resources. The excerpt of a run for a key is what concerns the key, with the handles
numbered in the order in which they were given out for it. Main statement: carried out by itself, the
excerpt is answered as it was in the run, and leaves the key as the run does.
-/

set_option autoImplicit false

namespace Peripherals

variable {W V τ : Type}

/-! ### Handles in commands and answers -/

namespace Adc

def Command.redirect (ρ : Handle → Handle) : Command → Command
  | .request c => .request c
  | .value h => .value (ρ h)
  | .release h => .release (ρ h)
  | .config h => .config (ρ h)

def Answer.renumber (ρ : Handle → Handle) : Answer → Answer
  | .granted h => .granted (ρ h)
  | a => a

end Adc

namespace Gpio

def Command.redirect (ρ : Handle → Handle) : Command → Command
  | .request c => .request c
  | .release h => .release (ρ h)
  | .level h => .level (ρ h)
  | .drive h b => .drive (ρ h) b
  | .name h => .name (ρ h)
  | .direction h => .direction (ρ h)
  | .line h => .line (ρ h)

def Answer.renumber (ρ : Handle → Handle) : Answer → Answer
  | .granted h => .granted (ρ h)
  | a => a

end Gpio

namespace Pwm

def Command.redirect (ρ : Handle → Handle) : Command → Command
  | .request c => .request c
  | .release h => .release (ρ h)
  | .enable h => .enable (ρ h)
  | .disable h => .disable (ρ h)
  | .setPeriod h period => .setPeriod (ρ h) period
  | .setDuty h duty => .setDuty (ρ h) duty
  | .setPolarity h polarity => .setPolarity (ρ h) polarity
  | .config h => .config (ρ h)
  | .isEnabled h => .isEnabled (ρ h)

def Answer.renumber (ρ : Handle → Handle) : Answer → Answer
  | .granted h => .granted (ρ h)
  | a => a

end Pwm

namespace Manager

def key? : (m : Manager W) → m.Command → Option UInt32
  | .adc _, .request c => some c.pin
  | .gpio _, .request c => some c.line
  | .pwm _, .request c => some c.pin
  | _, _ => none

def redirect (ρ : Handle → Handle) : (m : Manager W) → m.Command → m.Command
  | .adc _ => Adc.Command.redirect ρ
  | .gpio _ => Gpio.Command.redirect ρ
  | .pwm _ => Pwm.Command.redirect ρ

def renumber (ρ : Handle → Handle) : (m : Manager W) → m.Answer → m.Answer
  | .adc _ => Adc.Answer.renumber ρ
  | .gpio _ => Gpio.Answer.renumber ρ
  | .pwm _ => Pwm.Answer.renumber ρ

variable (m : Manager W) (ρ : Handle → Handle)

theorem errand_redirect (k : m.Command) : m.errand (m.redirect ρ k) = (m.errand k).redirect ρ := by
  cases m with
  | adc driver => cases k <;> rfl
  | gpio driver => cases k <;> rfl
  | pwm driver => cases k <;> rfl

theorem errand_key? (k : m.Command) : (m.errand k).key? m.device = m.key? k := by
  cases m with
  | adc driver => cases k <;> rfl
  | gpio driver => cases k <;> rfl
  | pwm driver => cases k <;> rfl

private theorem renumber_granted (h : Handle) : m.renumber ρ (m.granted h) = m.granted (ρ h) := by
  cases m <;> rfl

private theorem renumber_done : m.renumber ρ m.done = m.done := by
  cases m <;> rfl

private theorem errand_plain (k : m.Command) : (m.errand k).Plain (m.renumber ρ) := by
  cases m with
  | adc driver =>
    cases k with
    | value h => exact Errand.plain_map fun _ => rfl
    | config h => exact fun _ => rfl
    | request c | release h => trivial
  | gpio driver =>
    cases k with
    | level h | drive h b => exact Errand.plain_map fun _ => rfl
    | name h | direction h | line h => exact fun _ => rfl
    | request c | release h => trivial
  | pwm driver =>
    cases k with
    | enable h | disable h | setPeriod h period | setDuty h duty | setPolarity h polarity =>
      exact Errand.plain_map fun _ => rfl
    | config h | isEnabled h => exact fun _ => rfl
    | request c | release h => trivial

/-- What is known of a manager of simulated resources: all its work stays within the key at work. -/
structure Local (m : Manager W) (v : Outlook W m.Channel τ) : Prop where
  device : m.device.Local v
  aloof : m.device.Aloof
  errand : ∀ k, (m.errand k).Local v

end Manager

/-! ### Presets -/

/-- What someone else does to a resource changes nothing but what belongs to its key. -/
structure Presets {C : Type} (v : Outlook W C τ) (preset : UInt32 → V → W → W) : Prop where
  alike : ∀ key x s s', v.fit s → v.fit s' → v.look s key = v.look s' key →
    v.look (preset key x s) key = v.look (preset key x s') key
  stays : ∀ key x s, v.fit s → v.fit (preset key x s) ∧
    ∀ other, other ≠ key → v.look (preset key x s) other = v.look s other

def Occurrence.mapCommand {K E : Type} (f : K → K) : Occurrence K E → Occurrence K E
  | .command k => .command (f k)
  | .outside e => .outside e

/-! ### Excerpts -/

/-- The number under which a handle goes that was given out for a key, when handles for the key only are
given out, from a first number on. -/
def number (first : Nat) (mine : List Handle) (h : Handle) : Handle :=
  ⟨first + mine.idxOf h⟩

private theorem number_append {first : Nat} {mine : List Handle} {h : Handle} (known : h ∈ mine)
    (later : List Handle) : number first (mine ++ later) h = number first mine h := by
  rw [number, List.idxOf_append_of_mem known]
  rfl

private theorem number_new {first : Nat} {mine : List Handle} {h : Handle} (fresh : h ∉ mine) :
    number first (mine ++ [h]) h = ⟨first + mine.length⟩ := by
  rw [number, List.idxOf_append_of_notMem fresh, List.idxOf_cons_self, Nat.add_zero]

namespace Manager

variable (m : Manager W) (preset : UInt32 → V → W → W)

def happen : Occurrence m.Command (UInt32 × V) →
    Action Fault (Desk W m.Settings m.Channel) (Option m.Answer) :=
  Occurrence.perform m.perform fun e => preset e.1 e.2

variable {m}

/-- A request for the key, a command about a handle that was given out for it, or a preset of the key. -/
def concerns (key : UInt32) (mine : List Handle) : Occurrence m.Command (UInt32 × V) → Bool
  | .command k => m.key? k = some key || (m.handle? k).any (· ∈ mine)
  | .outside e => e.1 = key

/-- The handle that is given out for the key, if any. -/
def issued (key : UInt32) (o : Occurrence m.Command (UInt32 × V)) (reply : Except Fault (Option m.Answer)) :
    List Handle :=
  match o, reply with
  | .command k, .ok (some a) => if m.key? k = some key then (m.granted? a).toList else []
  | _, _ => []

def renumbered (ρ : Handle → Handle) : Except Fault (Option m.Answer) → Except Fault (Option m.Answer) :=
  renumberReply ρ (Option.map (m.renumber ρ))

/-- What concerns the key in the course of a run, with the replies. The handles that were given out for
the key before are known. -/
def excerpt (key : UInt32) (first : Nat) : List Handle → List (Occurrence m.Command (UInt32 × V)) →
    Desk W m.Settings m.Channel →
    List (Occurrence m.Command (UInt32 × V) × Except Fault (Option m.Answer))
  | _, [], _ => []
  | mine, o :: os, d =>
    let r := m.happen preset o d
    let mine' := mine ++ issued key o r.answer
    let ρ := number first mine'
    (if concerns key mine o then [(o.mapCommand (m.redirect ρ), renumbered ρ r.answer)] else []) ++
      excerpt key first mine' os r.state

/-! ### What happens at twins -/

theorem concerns_command {key : UInt32} {mine : List Handle} {k : m.Command} :
    concerns (V := V) key mine (.command k) = true ↔ (m.errand k).Concerns m.device key mine := by
  rw [Errand.Concerns, m.errand_key?, m.handle?_errand, concerns, Bool.or_eq_true, decide_eq_true_iff,
    Option.any_eq_true]
  simp only [decide_eq_true_iff, and_comm]

theorem issued_of_error (key : UInt32) (o : Occurrence m.Command (UInt32 × V)) (f : Fault) :
    issued key o (.error f) = [] := by
  cases o <;> rfl

theorem issued_of_foreign {key : UInt32} {k : m.Command} (foreign : m.key? k ≠ some key)
    (reply : Except Fault (Option m.Answer)) : issued (V := V) key (.command k) reply = [] := by
  rcases reply with f | _ | a
  · rfl
  · rfl
  · exact if_neg foreign

private theorem renumbered_map (ρ : Handle → Handle) (reply : Except Fault m.Answer) :
    renumbered ρ (reply.map some) = (renumberReply ρ (m.renumber ρ) reply).map some := by
  cases reply <;> rfl

theorem happen_answer (k : m.Command) (d : Desk W m.Settings m.Channel) :
    (m.happen preset (.command k) d).answer = (m.perform k d).answer.map some :=
  (Occurrence.perform_command k d).1

theorem happen_course (k : m.Command) (d : Desk W m.Settings m.Channel) :
    Course m.device m.granted m.done d (m.errand k) (m.perform k d).answer
      (m.happen preset (.command k) d).state := by
  rw [show (m.happen preset (.command k) d).state = (m.perform k d).state from
    (Occurrence.perform_command k d).2]
  exact m.course k d

variable {preset} {v : Outlook W m.Channel τ} {key : UInt32} {pairs : List (Handle × Handle)}
  {d d' : Desk W m.Settings m.Channel}

theorem Local.apart (here : m.Local v) (presets : Presets v preset) (twin : Twin v key pairs d d')
    {o : Occurrence m.Command (UInt32 × V)} (other : concerns key (pairs.map Prod.fst) o = false) :
    issued key o (m.happen preset o d).answer = [] ∧
      Twin v key pairs (m.happen preset o d).state d' := by
  cases o with
  | command k =>
    have apart : ¬ (m.errand k).Concerns m.device key (pairs.map Prod.fst) := by
      rw [← concerns_command (V := V), other]
      exact Bool.false_ne_true
    refine ⟨issued_of_foreign (fun asks => apart (.inl ((m.errand_key? k).trans asks))) _, ?_⟩
    exact twin.skip here.device (here.errand k) apart (m.happen_course preset k d)
  | outside e =>
    have differs : key ≠ e.1 := fun same => of_decide_eq_false other same.symm
    obtain ⟨kept, others⟩ := presets.stays e.1 e.2 d.device (twin.tended.holds 0).1
    refine ⟨rfl, twin.elsewhere ⟨twin.tended.sound, fun k => ⟨kept, (twin.tended.holds k).2⟩⟩
      (others key differs) (Nat.le_refl _) (fun _ _ => rfl) fun h lease live => ?_⟩
    obtain ⟨h', member⟩ := twin.covered h lease live
    exact ⟨_, member, rfl⟩

theorem Local.apart_right (here : m.Local v) (presets : Presets v preset)
    (twin : Twin v key pairs d d') {o : Occurrence m.Command (UInt32 × V)}
    (other : concerns key (pairs.map Prod.snd) o = false) :
    Twin v key pairs d (m.happen preset o d').state := by
  have swapped : (pairs.map Prod.swap).map Prod.fst = pairs.map Prod.snd := by
    rw [List.map_map]
    rfl
  have back := (here.apart presets twin.symm (swapped ▸ other)).2.symm
  rw [List.map_map, Prod.swap_swap_eq, List.map_id] at back
  exact back

/-- What concerns the key happens at both twins: a handle is given out at both or at none. -/
theorem Local.both (here : m.Local v) (presets : Presets v preset) (twin : Twin v key pairs d d')
    {o : Occurrence m.Command (UInt32 × V)} (about : concerns key (pairs.map Prod.fst) o = true)
    {ρ : Handle → Handle} (agree : ∀ p ∈ pairs, ρ p.1 = p.2) :
    let r := m.happen preset o d
    let r' := m.happen preset (o.mapCommand (m.redirect ρ)) d'
    ∃ more, (more = [] ∨ more = [(⟨d.counter⟩, ⟨d'.counter⟩)]) ∧
      issued key o r.answer = more.map Prod.fst ∧ Twin v key (pairs ++ more) r.state r'.state ∧
      r.state.counter = d.counter + more.length ∧ r'.state.counter = d'.counter + more.length ∧
      ((∀ p ∈ more, ρ p.1 = p.2) → r'.answer = renumbered ρ r.answer) := by
  intro r r'
  cases o with
  | outside e =>
    obtain rfl : e.1 = key := of_decide_eq_true about
    have fit := (twin.tended.holds 0).1
    have fit' := (twin.tended'.holds 0).1
    refine ⟨[], .inl rfl, rfl, ?_, rfl, rfl, fun _ => rfl⟩
    rw [List.append_nil]
    exact { twin with
      tended := ⟨twin.tended.sound, fun k => ⟨(presets.stays _ _ _ fit).1, (twin.tended.holds k).2⟩⟩
      tended' := ⟨twin.tended'.sound, fun k => ⟨(presets.stays _ _ _ fit').1, (twin.tended'.holds k).2⟩⟩
      seen := presets.alike _ _ _ _ fit fit' twin.seen }
  | command k =>
    have course := m.happen_course preset k d
    have course' := m.happen_course preset (m.redirect ρ k) d'
    rw [m.errand_redirect] at course'
    have asks (request : (m.errand k).handle? = none) : m.key? k = some key := by
      rcases concerns_command.mp about with asked | ⟨h, _, handle⟩
      · exact (m.errand_key? k).symm.trans asked
      · rw [request] at handle
        cases handle
    have request' : ((m.errand k).redirect ρ).handle? = none ↔ (m.errand k).handle? = none := by
      rw [Errand.handle?_redirect, Option.map_eq_none_iff]
    rw [show r.answer = _ from happen_answer preset k d,
      show r'.answer = _ from happen_answer preset (m.redirect ρ k) d']
    rcases twin.step here.device here.aloof (here.errand k) agree (m.errand_plain ρ k)
      (m.renumber_done ρ) (concerns_command.mp about) course course' with
        ⟨request, ok, ok', after⟩ | ⟨failed, same, after⟩
    · refine ⟨[(⟨d.counter⟩, ⟨d'.counter⟩)], .inr rfl, ?_, after, ?_, ?_, fun agrees => ?_⟩
      · rw [ok]
        change (if m.key? k = some key then (m.granted? (m.granted ⟨d.counter⟩)).toList else []) = _
        rw [if_pos (asks request), m.granted?_granted]
        rfl
      · exact course.counter_of_ok request ok
      · exact course'.counter_of_ok (request'.mpr request) ok'
      · rw [ok, ok', renumbered_map]
        change _ = (Except.ok (m.renumber ρ (m.granted ⟨d.counter⟩))).map some
        rw [m.renumber_granted, agrees _ (List.mem_singleton_self _)]
    · refine ⟨[], .inl rfl, ?_, ?_, ?_, ?_, fun _ => ?_⟩
      · by_cases asked : m.key? k = some key
        · obtain ⟨f, answer⟩ := failed (Errand.handle?_of_key? ((m.errand_key? k).trans asked))
          rw [answer]
          exact issued_of_error key _ f
        · exact issued_of_foreign asked _
      · rw [List.append_nil]
        exact after
      · exact course.counter_of_error failed
      · refine course'.counter_of_error fun request => ?_
        obtain ⟨f, answer⟩ := failed (request'.mp request)
        exact ⟨f.renumber ρ, by rw [same, answer]; rfl⟩
      · rw [same, renumbered_map]

/-! ### Excerpts by themselves -/

/-- A run at one of two twins and its excerpt at the other. -/
theorem Local.excerpt_run (here : m.Local v) (presets : Presets v preset) (first : Nat)
    (os : List (Occurrence m.Command (UInt32 × V))) {mine : List Handle}
    (twin : Twin v key pairs d d') (known : pairs.map Prod.fst = mine)
    (numbered : ∀ p ∈ pairs, number first mine p.1 = p.2) (counter : d'.counter = first + mine.length) :
    let part := m.excerpt preset key first mine os d
    Action.replies (m.happen preset) (part.map Prod.fst) d' = part.map Prod.snd ∧
      ∃ pairs', Twin v key pairs' (Action.runAll (m.happen preset) os d)
        (Action.runAll (m.happen preset) (part.map Prod.fst) d') := by
  induction os generalizing mine pairs d d' with
  | nil => exact ⟨rfl, pairs, twin⟩
  | cons o os ih =>
    subst known
    cases about : concerns key (pairs.map Prod.fst) o with
    | false =>
      obtain ⟨none_issued, after⟩ := here.apart presets twin about
      simp only [excerpt, about, none_issued, List.append_nil, Bool.false_eq_true, if_false,
        List.nil_append]
      exact ih after rfl numbered counter
    | true =>
      have agree (more : List Handle) : ∀ p ∈ pairs,
          number first (pairs.map Prod.fst ++ more) p.1 = p.2 := fun p member =>
        (number_append (List.mem_map_of_mem member) more).trans (numbered p member)
      obtain ⟨more, few, issues, after, _, counter', same⟩ := here.both presets twin about
        (agree (issued key o (m.happen preset o d).answer))
      have agrees : ∀ p ∈ pairs ++ more,
          number first (pairs.map Prod.fst ++ more.map Prod.fst) p.1 = p.2 := by
        intro p member
        rcases List.mem_append.mp member with before | now
        · exact agree _ p before
        · rcases few with rfl | rfl
          · cases now
          · -- The new handle is the next one at both desks.
            obtain rfl := List.mem_singleton.mp now
            have fresh : (⟨d.counter⟩ : Handle) ∉ pairs.map Prod.fst := by
              intro member
              obtain ⟨q, member, same⟩ := List.mem_map.mp member
              have below := (twin.old q member).1
              rw [same] at below
              exact Nat.lt_irrefl _ below
            exact (number_new fresh).trans (congrArg Handle.mk counter.symm)
      obtain ⟨answers, pairs', last⟩ := ih after List.map_append agrees (by
        rw [counter', counter, List.length_append, List.length_map, List.length_map, Nat.add_assoc])
      have reply := same fun p member => issues ▸ agrees p (List.mem_append_right _ member)
      simp only [excerpt, about, if_true, List.singleton_append, List.map_cons, Action.replies]
      rw [issues]
      rw [issues] at reply answers last
      exact ⟨congrArg₂ List.cons reply answers, pairs', last⟩

end Manager

end Peripherals

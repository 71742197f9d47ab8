import Peripherals.Proofs.Desk.Errand
/-!
Journals: drivers under watch, which write down every call to a device and whether it was done. A
channel is named by the place of its opening among all calls, so that two channels on one key are told
apart. Main statements: what calls of each sort do to the channels that are open.
-/

set_option autoImplicit false

namespace Peripherals

/-- Names one channel that was asked for: the place of the asking among all calls, and the key. -/
structure Tag where
  serial : Nat
  key : UInt32
  deriving DecidableEq, Repr

/-- What a device is asked: to open a channel, to do something with it, or to close it. -/
inductive Act (S V : Type) where
  | claim (settings : S)
  | use (verb : V)
  | close
  deriving DecidableEq

/-- One call to a device: the channel it is about, what was asked, and whether it was done. -/
structure Call (S V : Type) where
  tag : Tag
  act : Act S V
  done : Bool
  deriving DecidableEq

abbrev Journal (S V : Type) := List (Call S V)

/-- A channel that carries its name. -/
structure Tagged (C : Type) where
  channel : C
  tag : Tag

variable {σ S T V C α β : Type}

namespace Call

def opens (c : Call S V) : Bool :=
  match c.act with
  | .claim _ => c.done
  | _ => false

def closes (c : Call S V) : Bool :=
  match c.act with
  | .close => c.done
  | _ => false

end Call

namespace Journal

/-- A channel was opened and not closed since. -/
def IsOpen (j : Journal S V) (tag : Tag) : Prop :=
  (∃ c ∈ j, c.tag = tag ∧ c.opens = true) ∧ ∀ c ∈ j, c.tag = tag → c.closes = false

def openings (j : Journal S V) : Nat :=
  j.countP Call.opens

def closings (j : Journal S V) : Nat :=
  j.countP Call.closes

/-- No call is about a channel that was closed before. -/
def SilentAfterClose (j : Journal S V) : Prop :=
  j.Pairwise fun earlier later => earlier.closes = true → later.tag ≠ earlier.tag

/-- Calls about one channel which neither open nor close it. -/
def Passing (tag : Tag) (calls : Journal S V) : Prop :=
  ∀ c ∈ calls, c.tag = tag ∧ c.opens = false ∧ c.closes = false

def claiming (key : UInt32) (settings : S) (x : Action Fault σ C) :
    Action Fault (σ × Journal S V) (Tagged C) := fun (s, j) =>
  let r := x s
  let tag : Tag := ⟨j.length, key⟩
  ⟨r.answer.map (⟨·, tag⟩), r.events, (r.state, j ++ [⟨tag, .claim settings, r.answer.isOk⟩])⟩

def calling (act : Act S V) (x : Action Fault (σ × C) α) :
    Action Fault ((σ × Journal S V) × Tagged C) α := fun ((s, j), c) =>
  let r := x (s, c.channel)
  ⟨r.answer, r.events,
    ((r.state.1, j ++ [⟨c.tag, act, r.answer.isOk⟩]), { c with channel := r.state.2 })⟩

theorem claiming_state (key : UInt32) (settings : S) (x : Action Fault σ C) (p : σ × Journal S V) :
    (claiming key settings x p).state.2 =
      p.2 ++ [⟨⟨p.2.length, key⟩, .claim settings, (claiming key settings x p).answer.isOk⟩] := by
  simp only [claiming]
  cases (x p.1).answer <;> rfl

theorem claiming_tag {key : UInt32} {settings : S} {x : Action Fault σ C} {p : σ × Journal S V}
    {c : Tagged C} (claimed : (claiming key settings x p).answer = .ok c) :
    c.tag = ⟨p.2.length, key⟩ := by
  simp only [claiming] at claimed
  cases h : (x p.1).answer with
  | error f => simp [h, Except.map] at claimed
  | ok c' =>
    rw [h] at claimed
    obtain rfl := Except.ok.inj claimed
    rfl

end Journal

/-! ### Drivers under watch -/

namespace Adc

inductive Verb where
  | read
  deriving DecidableEq

def Driver.watched (d : Driver σ C) : Driver (σ × Journal Config Verb) (Tagged C) where
  name := d.name
  claim c := Journal.claiming c.pin c (d.claim c)
  read := Journal.calling (.use .read) d.read
  close := Journal.calling .close d.close

end Adc

namespace Gpio

inductive Verb where
  | read
  | write (level : Bool)
  deriving DecidableEq

def Driver.watched (d : Driver σ C) : Driver (σ × Journal Config Verb) (Tagged C) where
  name := d.name
  claim c := Journal.claiming c.line c (d.claim c)
  read := Journal.calling (.use .read) d.read
  write level := Journal.calling (.use (.write level)) (d.write level)
  close := Journal.calling .close d.close

end Gpio

namespace Pwm

inductive Verb where
  | setRunning (on : Bool)
  | setPeriod (period : UInt32)
  | setDuty (duty : UInt32)
  | setPolarity (polarity : Polarity)
  deriving DecidableEq

def Driver.watched (d : Driver σ C) : Driver (σ × Journal Config Verb) (Tagged C) where
  name := d.name
  claim c := Journal.claiming c.pin c (d.claim c)
  setRunning on := Journal.calling (.use (.setRunning on)) (d.setRunning on)
  setPeriod period := Journal.calling (.use (.setPeriod period)) (d.setPeriod period)
  setDuty duty := Journal.calling (.use (.setDuty duty)) (d.setDuty duty)
  setPolarity polarity := Journal.calling (.use (.setPolarity polarity)) (d.setPolarity polarity)
  close := Journal.calling .close d.close

end Pwm

/-! ### Open channels -/

namespace Journal

variable {j calls : Journal S V} {tag t : Tag} {c : Call S V}

theorem Passing.not_opens (passing : Passing tag calls) (member : c ∈ calls) : ¬ c.opens = true := by
  rw [(passing c member).2.1]
  exact Bool.false_ne_true

theorem isOpen_append_passing (passing : Passing tag calls) :
    IsOpen (j ++ calls) t ↔ IsOpen j t := by
  constructor
  · rintro ⟨⟨c, member, about, opened⟩, unclosed⟩
    refine ⟨⟨c, ?_, about, opened⟩, fun c member => unclosed c (List.mem_append_left _ member)⟩
    rcases List.mem_append.mp member with old | new
    · exact old
    · exact absurd opened (passing.not_opens new)
  · rintro ⟨⟨c, member, about, opened⟩, unclosed⟩
    refine ⟨⟨c, List.mem_append_left _ member, about, opened⟩, ?_⟩
    intro c member about
    rcases List.mem_append.mp member with old | new
    · exact unclosed c old about
    · exact (passing c new).2.2

theorem isOpen_append_opening (opened : c.opens = true) (fresh : ∀ c' ∈ j, c'.tag ≠ c.tag) :
    IsOpen (j ++ [c]) t ↔ IsOpen j t ∨ t = c.tag := by
  have unclosing : c.closes = false := by
    unfold Call.opens at opened
    unfold Call.closes
    split at opened <;> simp_all
  constructor
  · rintro ⟨⟨c', member, about, opened'⟩, unclosed⟩
    rcases List.mem_append.mp member with old | new
    · exact .inl ⟨⟨c', old, about, opened'⟩, fun e he => unclosed e (List.mem_append_left _ he)⟩
    · rw [List.mem_singleton.mp new] at about
      exact .inr about.symm
  · rintro (⟨⟨c', member, about, opened'⟩, unclosed⟩ | rfl)
    · refine ⟨⟨c', List.mem_append_left _ member, about, opened'⟩, ?_⟩
      intro e he
      rcases List.mem_append.mp he with old | new
      · exact unclosed e old
      · intro _
        rw [List.mem_singleton.mp new]
        exact unclosing
    · refine ⟨⟨c, List.mem_append_right _ (List.mem_singleton_self c), rfl, opened⟩, ?_⟩
      intro e he about
      rcases List.mem_append.mp he with old | new
      · exact absurd about (fresh e old)
      · rw [List.mem_singleton.mp new]
        exact unclosing

theorem isOpen_append_closing (closed : c.closes = true) :
    IsOpen (j ++ [c]) t ↔ IsOpen j t ∧ t ≠ c.tag := by
  have unopening : c.opens = false := by
    unfold Call.closes at closed
    unfold Call.opens
    split at closed <;> simp_all
  constructor
  · rintro ⟨⟨c', member, about, opened⟩, unclosed⟩
    have differs : t ≠ c.tag := by
      rintro rfl
      have := unclosed c (List.mem_append_right _ (List.mem_singleton_self c)) rfl
      rw [closed] at this
      cases this
    refine ⟨⟨⟨c', ?_, about, opened⟩, fun e he => unclosed e (List.mem_append_left _ he)⟩, differs⟩
    rcases List.mem_append.mp member with old | new
    · exact old
    · rw [List.mem_singleton.mp new, unopening] at opened
      cases opened
  · rintro ⟨⟨⟨c', member, about, opened⟩, unclosed⟩, differs⟩
    refine ⟨⟨c', List.mem_append_left _ member, about, opened⟩, ?_⟩
    intro e he about'
    rcases List.mem_append.mp he with old | new
    · exact unclosed e old about'
    · rw [List.mem_singleton.mp new] at about'
      exact absurd about'.symm differs

theorem openings_append : openings (j ++ calls) = openings j + openings calls :=
  List.countP_append

theorem closings_append : closings (j ++ calls) = closings j + closings calls :=
  List.countP_append

theorem openings_passing (passing : Passing tag calls) : openings calls = 0 :=
  List.countP_eq_zero.mpr fun c member => by simp [(passing c member).2.1]

theorem closings_passing (passing : Passing tag calls) : closings calls = 0 :=
  List.countP_eq_zero.mpr fun c member => by simp [(passing c member).2.2]

theorem silentAfterClose_passing (passing : Passing tag calls) : SilentAfterClose calls := by
  refine List.pairwise_of_forall_mem_list ?_
  intro c member c' _ closed
  rw [(passing c member).2.2] at closed
  cases closed

theorem SilentAfterClose.append (silent : SilentAfterClose j) (silent' : SilentAfterClose calls)
    (unclosed : ∀ c ∈ calls, ∀ c' ∈ j, c'.tag = c.tag → c'.closes = false) :
    SilentAfterClose (j ++ calls) := by
  refine List.pairwise_append.mpr ⟨silent, silent', ?_⟩
  intro c' old c new closed same
  have := unclosed c new c' old same.symm
  rw [closed] at this
  cases this

end Journal

end Peripherals

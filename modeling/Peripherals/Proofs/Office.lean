import Mathlib.Logic.Function.Basic
import Peripherals.Proofs.Desk.Errand
/-!
Offices: any number of desks of all three kinds over one world, which draw their handles from one
counter. Main statement: through every run the handles that are given out count upwards, and a handle
that was released or that belongs to another desk is unknown for ever.
-/

set_option autoImplicit false

namespace Peripherals

/-! ### Managers -/

/-- The handle that a command is about; a request is about none. -/
def Adc.Command.handle? : Adc.Command → Option Handle
  | .request _ => none
  | .value h | .release h | .config h => some h

def Gpio.Command.handle? : Gpio.Command → Option Handle
  | .request _ => none
  | .release h | .level h | .drive h _ | .name h | .direction h | .line h => some h

def Pwm.Command.handle? : Pwm.Command → Option Handle
  | .request _ => none
  | .release h | .enable h | .disable h | .setPeriod h _ | .setDuty h _ | .setPolarity h _ | .config h
  | .isEnabled h => some h

/-- Serves one desk of its kind, over any device. -/
inductive Manager (W : Type) : Type 1 where
  | adc {C : Type} (driver : Adc.Driver W C)
  | gpio {C : Type} (driver : Gpio.Driver W C)
  | pwm {C : Type} (driver : Pwm.Driver W C)

namespace Manager

variable {W : Type}

def Settings : Manager W → Type
  | .adc _ => Adc.Config
  | .gpio _ => Gpio.Config
  | .pwm _ => Pwm.Signal

def Channel : Manager W → Type
  | .adc (C := C) _ | .gpio (C := C) _ | .pwm (C := C) _ => C

def Command : Manager W → Type
  | .adc _ => Adc.Command
  | .gpio _ => Gpio.Command
  | .pwm _ => Pwm.Command

def Answer : Manager W → Type
  | .adc _ => Adc.Answer
  | .gpio _ => Gpio.Answer
  | .pwm _ => Pwm.Answer

def device : (m : Manager W) → Device W m.Settings m.Channel
  | .adc d => d.device
  | .gpio d => d.device
  | .pwm d => d.device

def perform : (m : Manager W) → m.Command → Action Fault (Desk W m.Settings m.Channel) m.Answer
  | .adc d => d.perform
  | .gpio d => d.perform
  | .pwm d => d.perform

def release : (m : Manager W) → Handle → m.Command
  | .adc _ => .release
  | .gpio _ => .release
  | .pwm _ => .release

def handle? : (m : Manager W) → m.Command → Option Handle
  | .adc _ => Adc.Command.handle?
  | .gpio _ => Gpio.Command.handle?
  | .pwm _ => Pwm.Command.handle?

def granted : (m : Manager W) → Handle → m.Answer
  | .adc _ => .granted
  | .gpio _ => .granted
  | .pwm _ => .granted

def granted? : (m : Manager W) → m.Answer → Option Handle
  | .adc _, .granted h => some h
  | .gpio _, .granted h => some h
  | .pwm _, .granted h => some h
  | _, _ => none

def errand : (m : Manager W) → m.Command → Errand W m.Settings m.Channel m.Answer
  | .adc d => d.errand
  | .gpio d => d.errand
  | .pwm d => d.errand

def done : (m : Manager W) → m.Answer
  | .adc _ => .done
  | .gpio _ => .done
  | .pwm _ => .done

variable (m : Manager W)

theorem course (k : m.Command) (d : Desk W m.Settings m.Channel) :
    Course m.device m.granted m.done d (m.errand k) (m.perform k d).answer (m.perform k d).state := by
  have same : m.perform k = (m.errand k).run m.device m.granted m.done := by
    cases m with
    | adc driver => exact driver.perform_eq k
    | gpio driver => exact driver.perform_eq k
    | pwm driver => exact driver.perform_eq k
  rw [same]
  exact (m.errand k).course m.device m.granted m.done d

theorem handle?_errand (k : m.Command) : (m.errand k).handle? = m.handle? k := by
  cases m with
  | adc driver => cases k <;> rfl
  | gpio driver => cases k <;> rfl
  | pwm driver => cases k <;> rfl

theorem errand_release (h : Handle) : m.errand (m.release h) = .release h := by
  cases m <;> rfl

theorem granted?_granted (h : Handle) : m.granted? (m.granted h) = some h := by
  cases m <;> rfl

end Manager

/-! ### Offices -/

/-- The desks of some managers over one world, and the counter they share. -/
structure Office {W ι : Type} (managers : ι → Manager W) where
  world : W
  counter : Nat
  leases : (i : ι) → HandleTable UInt32 (Lease (managers i).Settings (managers i).Channel)

/-- What happens at an office: a manager carries out a command or goes away, or the world changes
without the managers. -/
inductive Move {W ι : Type} (managers : ι → Manager W) where
  | command (i : ι) (k : (managers i).Command)
  | teardown (i : ι)
  | drift (f : W → W)

namespace Office

section Views

variable {W ι : Type} (managers : ι → Manager W)

def vacant (world : W) (counter : Nat) : Office managers :=
  ⟨world, counter, fun _ => ∅⟩

variable {managers} (o : Office managers)

def desk (i : ι) : Desk W (managers i).Settings (managers i).Channel :=
  ⟨o.world, o.counter, o.leases i⟩

/-- The manager and the handle that it gives out, if a move is a request that succeeds. -/
def issue? : Move managers → Option (ι × Handle)
  | .command i k =>
    match (managers i).handle? k, ((managers i).perform k (o.desk i)).answer with
    | none, .ok a => ((managers i).granted? a).map (i, ·)
    | _, _ => none
  | .teardown _ | .drift _ => none

def Sound : Prop :=
  ∀ i, (o.leases i).Sound o.counter

/-- A manager knows nothing of a handle that was given out before. -/
def Dead (i : ι) (h : Handle) : Prop :=
  h.number < o.counter ∧ (o.leases i).slots.get? h = none

private theorem sound_vacant (w : W) (n : Nat) : (vacant managers w n).Sound :=
  fun _ => HandleTable.sound_empty n

end Views

variable {W ι : Type} [DecidableEq ι] {managers : ι → Manager W}

def put (o : Office managers) (i : ι) (d : Desk W (managers i).Settings (managers i).Channel) :
    Office managers :=
  ⟨d.device, d.counter, Function.update o.leases i d.leases⟩

def step (o : Office managers) : Move managers → Office managers
  | .command i k => o.put i ((managers i).perform k (o.desk i)).state
  | .teardown i => o.put i ((managers i).device.teardown (o.desk i)).state
  | .drift f => { o with world := f o.world }

def run (o : Office managers) (moves : List (Move managers)) : Office managers :=
  moves.foldl step o

/-- All handles that are given out in the course of a run, the oldest first. -/
def issued (o : Office managers) : List (Move managers) → List (ι × Handle)
  | [] => []
  | m :: moves => (o.issue? m).toList ++ (o.step m).issued moves

/-- In the course of a run the manager released the handle. -/
def Released (o : Office managers) (moves : List (Move managers)) (i : ι) (h : Handle) : Prop :=
  ∃ before after a, moves = before ++ .command i ((managers i).release h) :: after ∧
    ((managers i).perform ((managers i).release h) ((o.run before).desk i)).answer = .ok a

private theorem run_append (o : Office managers) (moves moves' : List (Move managers)) :
    o.run (moves ++ moves') = (o.run moves).run moves' :=
  List.foldl_append

variable {o : Office managers}

/-! ### Steps -/

private theorem leases_put (o : Office managers) (i : ι)
    (d : Desk W (managers i).Settings (managers i).Channel) :
    (o.put i d).leases i = d.leases ∧ ∀ j, j ≠ i → (o.put i d).leases j = o.leases j :=
  ⟨Function.update_self .., fun _ other => Function.update_of_ne other ..⟩

private theorem Sound.put (s : o.Sound) {i : ι} {d : Desk W (managers i).Settings (managers i).Channel}
    (own : d.leases.Sound d.counter) (later : o.counter ≤ d.counter) : (o.put i d).Sound := by
  obtain ⟨self, others⟩ := o.leases_put i d
  intro j
  by_cases same : j = i
  · subst same
    rw [self]
    exact own
  · rw [others j same]
    exact (s j).mono later

private theorem Dead.put {i j : ι} {h : Handle} (dead : o.Dead j h)
    {d : Desk W (managers i).Settings (managers i).Channel} (later : o.counter ≤ d.counter)
    (own : h.number < o.counter → (o.leases i).slots.get? h = none → d.leases.slots.get? h = none) :
    (o.put i d).Dead j h := by
  obtain ⟨old, unknown⟩ := dead
  obtain ⟨self, others⟩ := o.leases_put i d
  refine ⟨Nat.lt_of_lt_of_le old later, ?_⟩
  by_cases same : j = i
  · subst same
    rw [self]
    exact own old unknown
  · rw [others j same]
    exact unknown

private theorem counter_step (o : Office managers) (m : Move managers) :
    (∃ i, o.issue? m = some (i, ⟨o.counter⟩) ∧ (o.step m).counter = o.counter + 1) ∨
      (o.issue? m = none ∧ (o.step m).counter = o.counter) := by
  cases m with
  | command i k =>
    have drawn := ((managers i).course k (o.desk i)).counter_eq
    rw [(managers i).handle?_errand] at drawn
    rcases drawn with ⟨request, answer, counter⟩ | ⟨fails, counter⟩
    · refine .inl ⟨i, ?_, counter⟩
      simp only [issue?, request, answer, (managers i).granted?_granted]
      rfl
    · refine .inr ⟨?_, counter⟩
      cases about : (managers i).handle? k with
      | some h => simp only [issue?, about]
      | none =>
        obtain ⟨f, answer⟩ := fails about
        simp only [issue?, about, answer]
  | teardown i => exact .inr ⟨rfl, rfl⟩
  | drift f => exact .inr ⟨rfl, rfl⟩

private theorem request_step (o : Office managers) {i : ι} {k : (managers i).Command}
    (request : (managers i).handle? k = none) :
    (∀ a, ((managers i).perform k (o.desk i)).answer = .ok a →
      o.issue? (.command i k) = some (i, ⟨o.counter⟩) ∧
        (o.step (.command i k)).counter = o.counter + 1) ∧
    (∀ f, ((managers i).perform k (o.desk i)).answer = .error f →
      o.issue? (.command i k) = none ∧ (o.step (.command i k)).counter = o.counter) := by
  have drawn := ((managers i).course k (o.desk i)).counter_eq
  rw [(managers i).handle?_errand] at drawn
  constructor
  · intro a succeeded
    rcases drawn with ⟨_, answer, counter⟩ | ⟨fails, _⟩
    · refine ⟨?_, counter⟩
      simp only [issue?, request, answer, (managers i).granted?_granted]
      rfl
    · obtain ⟨f, failed⟩ := fails request
      rw [failed] at succeeded
      cases succeeded
  · intro f failed
    rcases drawn with ⟨_, answer, _⟩ | ⟨_, counter⟩
    · rw [answer] at failed
      cases failed
    · refine ⟨?_, counter⟩
      simp only [issue?, request, failed]

private theorem counter_le_step (o : Office managers) (m : Move managers) :
    o.counter ≤ (o.step m).counter := by
  rcases o.counter_step m with ⟨_, _, counter⟩ | ⟨_, counter⟩ <;> omega

private theorem Sound.step (s : o.Sound) (m : Move managers) : (o.step m).Sound := by
  have later := o.counter_le_step m
  cases m with
  | command i k => exact s.put (((managers i).course k (o.desk i)).sound (s i)) later
  | teardown i => exact s.put (HandleTable.sound_empty o.counter) later
  | drift f => exact s

private theorem Dead.step {i : ι} {h : Handle} (dead : o.Dead i h) (m : Move managers) :
    (o.step m).Dead i h := by
  have later := o.counter_le_step m
  cases m with
  | command j k => exact dead.put later ((managers j).course k (o.desk j)).stays_dead
  | teardown j => exact dead.put later fun _ _ => rfl
  | drift f => exact dead

private theorem Sound.dead_of_issue? (s : o.Sound) {m : Move managers} {i j : ι} {h : Handle}
    (issue : o.issue? m = some (j, h)) (other : i ≠ j) : (o.step m).Dead i h := by
  rcases o.counter_step m with ⟨j', issue', counter⟩ | ⟨issue', _⟩
  · rw [issue'] at issue
    obtain ⟨rfl, rfl⟩ := Prod.mk.inj (Option.some.inj issue)
    refine ⟨?_, ?_⟩
    · rw [counter]
      exact Nat.lt_succ_self _
    · cases m with
      | command j k =>
        have giver : j = j' := by
          simp only [issue?] at issue'
          split at issue'
          · obtain ⟨h', _, pair⟩ := Option.map_eq_some_iff.mp issue'
            exact (Prod.mk.inj pair).1
          · cases issue'
        subst giver
        change ((o.put j _).leases i).slots.get? _ = none
        rw [(o.leases_put j _).2 i other]
        exact (s i).fresh
      | teardown j => cases issue'
      | drift f => cases issue'
  · rw [issue'] at issue
    cases issue

private theorem Sound.dead_of_release (s : o.Sound) {i : ι} {h : Handle} {a : (managers i).Answer}
    (released : ((managers i).perform ((managers i).release h) (o.desk i)).answer = .ok a) :
    (o.step (.command i ((managers i).release h))).Dead i h := by
  have course := (managers i).course ((managers i).release h) (o.desk i)
  rw [(managers i).errand_release, released] at course
  obtain ⟨⟨p, live⟩, gone⟩ := course.released_dead
  refine ⟨Nat.lt_of_lt_of_le ((s i).below h p live) (o.counter_le_step _), ?_⟩
  change ((o.put i _).leases i).slots.get? h = none
  rw [(o.leases_put i _).1]
  exact gone

private theorem Dead.answer {i : ι} {h : Handle} (dead : o.Dead i h) {k : (managers i).Command}
    (about : (managers i).handle? k = some h) :
    ((managers i).perform k (o.desk i)).answer = .error (.unknownHandle h) ∧
      o.step (.command i k) = o := by
  have course := (managers i).course k (o.desk i)
  rw [← (managers i).handle?_errand] at about
  obtain ⟨answer, state⟩ := course.of_dead about dead.2
  refine ⟨answer, ?_⟩
  change o.put i ((managers i).perform k (o.desk i)).state = o
  rw [state]
  simp only [Office.put, desk, Function.update_eq_self]

/-! ### Runs -/

private theorem Sound.run (s : o.Sound) (moves : List (Move managers)) : (o.run moves).Sound := by
  induction moves generalizing o with
  | nil => exact s
  | cons m moves ih => exact ih (s.step m)

private theorem Dead.run {i : ι} {h : Handle} (dead : o.Dead i h) (moves : List (Move managers)) :
    (o.run moves).Dead i h := by
  induction moves generalizing o with
  | nil => exact dead
  | cons m moves ih => exact ih (dead.step m)

private theorem issued_numbers (o : Office managers) (moves : List (Move managers)) :
    (o.issued moves).map (fun e => e.2.number) = List.range' o.counter (o.issued moves).length ∧
      (o.run moves).counter = o.counter + (o.issued moves).length := by
  -- The office is generalised, as every move starts from the counter that the last one left.
  induction moves generalizing o with
  | nil => exact ⟨rfl, rfl⟩
  | cons m moves ih =>
    obtain ⟨numbers, counter⟩ := ih (o.step m)
    have run : o.run (m :: moves) = (o.step m).run moves := rfl
    rcases o.counter_step m with ⟨i, issue, drawn⟩ | ⟨issue, undrawn⟩
    · have issued : o.issued (m :: moves) = (i, ⟨o.counter⟩) :: (o.step m).issued moves := by
        simp only [Office.issued, issue]
        rfl
      rw [issued, run, counter, List.map_cons, numbers, drawn, List.length_cons, List.range'_succ]
      refine ⟨rfl, ?_⟩
      omega
    · have issued : o.issued (m :: moves) = (o.step m).issued moves := by
        simp only [Office.issued, issue]
        rfl
      rw [issued, run, counter, numbers, undrawn]
      exact ⟨rfl, rfl⟩

private theorem Sound.dead_of_issued (s : o.Sound) {moves : List (Move managers)} {i j : ι} {h : Handle}
    (issued : (j, h) ∈ o.issued moves) (other : i ≠ j) : (o.run moves).Dead i h := by
  induction moves generalizing o with
  | nil => cases issued
  | cons m moves ih =>
    rcases List.mem_append.mp issued with now | later
    · have issue := Option.mem_toList.mp now
      exact (s.dead_of_issue? issue other).run moves
    · exact ih (s.step m) later

private theorem Sound.dead_of_released (s : o.Sound) {moves : List (Move managers)} {i : ι} {h : Handle}
    (released : o.Released moves i h) : (o.run moves).Dead i h := by
  obtain ⟨before, after, a, rfl, answer⟩ := released
  rw [run_append]
  exact ((s.run before).dead_of_release answer).run after

end Office

/-- Through every run of every office, whatever fails, the handles that are given out count upwards
from the first, also as numbers of 64 bits while these last; a request that fails draws none. A handle
that a manager released, or that another manager gave out, is unknown to the manager from then on: no
command about it changes anything, whatever was requested since. -/
theorem handles_never_return {W ι : Type} [DecidableEq ι] (managers : ι → Manager W) (world : W)
    (first : Nat) (moves : List (Move managers)) :
    let start := Office.vacant managers world first
    let now := start.run moves
    let handles := (start.issued moves).map fun e => e.2
    handles.map Handle.number = List.range' first handles.length ∧
      handles.Pairwise (fun earlier later => earlier.number < later.number) ∧
      handles.Nodup ∧
      (first + handles.length ≤ UInt64.size → handles.Pairwise fun earlier later =>
        UInt64.ofNat earlier.number < UInt64.ofNat later.number) ∧
      now.counter = first + handles.length ∧
      (∀ i k, (managers i).handle? k = none →
        (∀ a, ((managers i).perform k (now.desk i)).answer = .ok a →
          now.issue? (.command i k) = some (i, ⟨now.counter⟩) ∧
            (now.step (.command i k)).counter = now.counter + 1) ∧
        ∀ f, ((managers i).perform k (now.desk i)).answer = .error f →
          now.issue? (.command i k) = none ∧ (now.step (.command i k)).counter = now.counter) ∧
      ∀ i h, (start.Released moves i h ∨ ∃ j, j ≠ i ∧ (j, h) ∈ start.issued moves) →
        ∀ k, (managers i).handle? k = some h →
          ((managers i).perform k (now.desk i)).answer = .error (.unknownHandle h) ∧
            (Fault.unknownHandle h).status = .badArguments ∧ now.step (.command i k) = now := by
  intro start now handles
  obtain ⟨numbers, counter⟩ := start.issued_numbers moves
  have length : handles.length = (start.issued moves).length := List.length_map _
  have range : handles.map Handle.number = List.range' first handles.length := by
    rw [length]
    exact List.map_map.trans numbers
  have below : ∀ h ∈ handles, h.number < first + handles.length := by
    intro h member
    have listed := List.mem_map_of_mem (f := Handle.number) member
    rw [range, List.mem_range'_1] at listed
    exact listed.2
  have increasing : handles.Pairwise fun earlier later => earlier.number < later.number := by
    have sorted : (handles.map Handle.number).Pairwise (· < ·) := by
      rw [range]
      exact List.pairwise_lt_range'
    exact List.pairwise_map.mp sorted
  refine ⟨range, increasing, ?_, ?_, ?_, fun i k request => now.request_step request, ?_⟩
  · refine increasing.imp fun less same => ?_
    rw [same] at less
    exact Nat.lt_irrefl _ less
  · intro lasts
    refine increasing.imp_of_mem fun member member' less => ?_
    have small := Nat.lt_of_lt_of_le (below _ member) lasts
    have small' := Nat.lt_of_lt_of_le (below _ member') lasts
    rw [UInt64.lt_iff_toNat_lt, UInt64.toNat_ofNat_of_lt' small, UInt64.toNat_ofNat_of_lt' small']
    exact less
  · rw [length]
    exact counter
  · intro i h known k about
    have sound : start.Sound := Office.sound_vacant world first
    have dead : now.Dead i h := by
      rcases known with released | ⟨j, other, issued⟩
      · exact sound.dead_of_released released
      · exact sound.dead_of_issued issued other.symm
    obtain ⟨answer, unchanged⟩ := dead.answer about
    exact ⟨answer, rfl, unchanged⟩

end Peripherals

import Peripherals.Proofs.Gpio.Lines
/-!
The levels of simulated lines over the whole life of a desk. Main statement: the level of a line is
what the last event has given to it that sets its level, and that is what is read of it.
-/

set_option autoImplicit false

namespace Peripherals.Gpio.Lines

/-! ### Histories -/

/-- One event at a desk on simulated lines. -/
inductive Entry where
  | asked (k : Command) (answer : Except Fault Answer)
  | driven (line : UInt32) (level : Bool)
  | elsewhere
  /-- The desk went away, and a new one took its place. -/
  | ended

abbrev History := List Entry

/-- The handle was given out for these settings. -/
def Grants (history : History) (h : Handle) (c : Config) : Prop :=
  .asked (.request c) (.ok (.granted h)) ∈ history

/-- After this history, the event sets the line to this level. -/
inductive Sets (history : History) (line : UInt32) : Entry → Bool → Prop
  | driven {level : Bool} : Sets history line (.driven line level) level
  | started {c : Config} {h : Handle} (on : c.line = line) (output : c.direction = .output) :
    Sets history line (.asked (.request c) (.ok (.granted h))) c.initial
  | written {c : Config} {h : Handle} {level : Bool} (grants : Grants history h c) (on : c.line = line) :
    Sets history line (.asked (.drive h level) (.ok .done)) level

/-- The level that the latest event has given to the line that sets it; without any it is low. -/
inductive Latest (line : UInt32) : History → Bool → Prop
  | low : Latest line [] false
  | set {history : History} {e : Entry} {level : Bool} (sets : Sets history line e level) :
    Latest line (e :: history) level
  | unset {history : History} {e : Entry} {level : Bool} (leaves : ∀ b, ¬ Sets history line e b)
    (before : Latest line history level) : Latest line (e :: history) level

private theorem Sets.unique {history : History} {line : UInt32} {e : Entry} {level level' : Bool}
    (sets : Sets history line e level) (sets' : Sets history line e level') : level = level' := by
  cases sets <;> cases sets' <;> rfl

private theorem Latest.unique {history : History} {line : UInt32} {level level' : Bool}
    (latest : Latest line history level) (latest' : Latest line history level') : level = level' := by
  induction latest with
  | low =>
    cases latest'
    rfl
  | set sets =>
    cases latest' with
    | set sets' => exact sets.unique sets'
    | unset leaves before => exact absurd sets (leaves _)
  | unset leaves before ih =>
    cases latest' with
    | set sets' => exact absurd sets' (leaves _)
    | unset leaves' before' => exact ih before'

/-! ### Runs -/

/-- The event takes a desk to another one. The leases of a desk that goes away are dismissed in any
order. -/
inductive Step (d : Desk Lines Config UInt32) : Entry → Desk Lines Config UInt32 → Prop
  | asked (k : Command) : Step d (.asked k (driver.perform k d).answer) (driver.perform k d).state
  | driven (line : UInt32) (level : Bool) :
    Step d (.driven line level) { d with device := d.device.drive line level }
  | elsewhere (draws : Nat) : Step d .elsewhere { d with counter := d.counter + draws }
  | ended {order : List (Handle × UInt32 × Lease Config UInt32)} (perm : order.Perm d.leases.entries) :
    Step d .ended (Desk.vacant (driver.device.dismissAll order d.device).state d.counter)

/-- A history that begins with new lines, and the desk to which it leads. -/
inductive Reached : History → Desk Lines Config UInt32 → Prop
  | start (counter : Nat) : Reached [] (Desk.vacant {} counter)
  | step {history : History} {e : Entry} {d d' : Desk Lines Config UInt32} (reached : Reached history d)
    (step : Step d e d') : Reached (e :: history) d'

private theorem dismissAll_level (order : List (Handle × UInt32 × Lease Config UInt32)) (l : Lines)
    (line : UInt32) : (driver.device.dismissAll order l).state.level line = l.level line := by
  induction order generalizing l with
  | nil => rfl
  | cons e rest ih =>
    obtain ⟨h, key, lease⟩ := e
    rw [driver.device.dismissAll_cons, ih, dismiss_device]
    rfl

/-! ### What the history tells of the leases -/

/-- Every lease is one that the history grants, and no handle was given out twice. -/
structure Granted (history : History) (d : Desk Lines Config UInt32) : Prop where
  sound : d.leases.Sound d.counter
  drawn : ∀ h c, Grants history h c → h.number < d.counter
  once : ∀ h c c', Grants history h c → Grants history h c' → c = c'
  leased : ∀ h p, d.leases.slots.get? h = some p →
    ∃ c, Grants history h c ∧ p = (c.line, ⟨c, c.line⟩)

variable {history : History} {d d' : Desk Lines Config UInt32} {e : Entry} {line : UInt32}

private theorem grants_cons {h : Handle} {c : Config} : Grants (e :: history) h c ↔
    e = .asked (.request c) (.ok (.granted h)) ∨ Grants history h c :=
  List.mem_cons.trans (or_congr_left eq_comm)

private theorem Granted.mono (granted : Granted history d)
    (nothing : ∀ c h, e ≠ .asked (.request c) (.ok (.granted h)))
    (sound : d'.leases.Sound d'.counter) (later : d.counter ≤ d'.counter)
    (old : ∀ h p, d'.leases.slots.get? h = some p → d.leases.slots.get? h = some p) :
    Granted (e :: history) d' where
  sound := sound
  drawn h c grants := by
    have before := (grants_cons.mp grants).resolve_left (nothing c h)
    exact Nat.lt_of_lt_of_le (granted.drawn h c before) later
  once h c c' grants grants' :=
    granted.once h c c' ((grants_cons.mp grants).resolve_left (nothing c h))
      ((grants_cons.mp grants').resolve_left (nothing c' h))
  leased h p slot := by
    obtain ⟨c, grants, entry⟩ := granted.leased h p (old h p slot)
    exact ⟨c, grants_cons.mpr (.inr grants), entry⟩

private theorem Granted.lend (granted : Granted history d) (c : Config)
    (free : d.leases.containsKey c.line = false) (l : Lines) :
    Granted (.asked (.request c) (.ok (.granted ⟨d.counter⟩)) :: history)
      (d.lend c.line l ⟨c, c.line⟩) := by
  have fresh {h : Handle} {c' : Config}
      (grants : Grants (.asked (.request c) (.ok (.granted ⟨d.counter⟩)) :: history) h c') :
      (c' = c ∧ h = ⟨d.counter⟩) ∨ (Grants history h c' ∧ h.number < d.counter) := by
    rcases grants_cons.mp grants with now | before
    · cases now
      exact .inl ⟨rfl, rfl⟩
    · exact .inr ⟨before, granted.drawn h c' before⟩
  refine ⟨granted.sound.entered free _, fun h c' grants => ?_, fun h c' c'' grants grants' => ?_,
    fun h p slot => ?_⟩
  · rcases fresh grants with ⟨-, rfl⟩ | ⟨-, below⟩
    · exact Nat.lt_succ_self _
    · exact Nat.lt_succ_of_lt below
  · rcases fresh grants with ⟨rfl, rfl⟩ | ⟨before, below⟩
    · rcases fresh grants' with ⟨rfl, -⟩ | ⟨-, below'⟩
      · rfl
      · exact absurd below' (Nat.lt_irrefl _)
    · rcases fresh grants' with ⟨-, rfl⟩ | ⟨before', -⟩
      · exact absurd below (Nat.lt_irrefl _)
      · exact granted.once h c' c'' before before'
  · have slots := (HandleTable.slots_entered _ _ _ h).symm.trans slot
    split at slots
    · next new =>
      rw [new]
      exact ⟨c, grants_cons.mpr (.inl rfl), (Option.some.inj slots).symm⟩
    · obtain ⟨c', grants, entry⟩ := granted.leased h p slots
      exact ⟨c', grants_cons.mpr (.inr grants), entry⟩

private theorem Granted.asked (granted : Granted history d) (k : Command) :
    Granted (.asked k (driver.perform k d).answer :: history) (driver.perform k d).state := by
  have course := course k d
  generalize (driver.perform k d).answer = answer at course ⊢
  generalize (driver.perform k d).state = d' at course ⊢
  cases k with
  | request c =>
    cases course with
    | taken busy =>
      exact granted.mono (fun _ _ same => nomatch same) granted.sound (Nat.le_refl _) fun _ _ slot => slot
    | declined free claim =>
      rw [show driver.device.claim c d.device = _ from claim_apply c d.device] at claim
      cases claim
    | granted free claim =>
      rw [show driver.device.claim c d.device = _ from claim_apply c d.device] at claim ⊢
      cases claim
      exact granted.lend c free _
    | unknown about dead => cases about
  | release h | level h | drive h level | name h | direction h | line h =>
    rcases course.counter_eq with ⟨request, -⟩ | ⟨-, counter⟩
    · cases request
    · refine granted.mono (fun _ _ same => nomatch same) (course.sound granted.sound)
        (Nat.le_of_eq counter.symm) fun h' p slot => ?_
      rcases course.slots_of_spared (fun lease => spares lease _) slot with old | ⟨c, channel, asks, -⟩
      · exact old
      · cases asks

private theorem Granted.step (granted : Granted history d) (step : Step d e d') : Granted
    (e :: history) d' := by
  cases step with
  | asked k => exact granted.asked k
  | driven line level =>
    exact granted.mono (fun _ _ same => nomatch same) granted.sound (Nat.le_refl _) fun _ _ slot => slot
  | elsewhere draws =>
    have later : d.counter ≤ d.counter + draws := Nat.le_add_right _ _
    exact granted.mono (fun _ _ same => nomatch same) (granted.sound.mono later) later
      fun _ _ slot => slot
  | ended perm =>
    refine granted.mono (fun _ _ same => nomatch same) (HandleTable.sound_empty _) (Nat.le_refl _) ?_
    exact fun _ _ none => nomatch none

private theorem Reached.granted (reached : Reached history d) : Granted history d := by
  induction reached with
  | start counter =>
    refine ⟨HandleTable.sound_empty counter, ?_, ?_, ?_⟩
    · exact fun _ _ none => nomatch none
    · exact fun _ _ _ none => nomatch none
    · exact fun _ _ none => nomatch none
  | step reached step ih => exact ih.step step

/-! ### Levels -/

/-- After this history, the event sets the line to the level that it then has, or leaves it. -/
def Explains (history : History) (line : UInt32) (e : Entry) (was now : Bool) : Prop :=
  Sets history line e now ∨ (∀ level, ¬ Sets history line e level) ∧ now = was

private theorem explains_ite {p : Prop} [Decidable p] {level was : Bool}
    (sets : p → Sets history line e level)
    (leaves : ¬ p → ∀ level', ¬ Sets history line e level') :
    Explains history line e was (if p then level else was) := by
  by_cases holds : p
  · rw [if_pos holds]
    exact .inl (sets holds)
  · rw [if_neg holds]
    exact .inr ⟨leaves holds, rfl⟩

private theorem level_request (c : Config) (d : Desk Lines Config UInt32) (line : UInt32) :
    Explains history line (.asked (.request c) (driver.perform (.request c) d).answer)
      (d.device.level line) ((driver.perform (.request c) d).state.device.level line) := by
  rcases request_level c d line with ⟨given, level⟩ | ⟨⟨f, failed⟩, level⟩
  · rw [given, level]
    refine explains_ite (fun sets => .started sets.2.symm sets.1) fun leaves level' set => ?_
    cases set with
    | started on output => exact leaves ⟨output, on.symm⟩
  · rw [failed, level]
    exact .inr ⟨(fun _ set => nomatch set), rfl⟩

private theorem Granted.level_drive (granted : Granted history d) (h : Handle) (level : Bool)
    (line : UInt32) :
    Explains history line (.asked (.drive h level) (driver.perform (.drive h level) d).answer)
      (d.device.level line) ((driver.perform (.drive h level) d).state.device.level line) := by
  cases slot : d.leases.slots.get? h with
  | none =>
    obtain ⟨answer, left⟩ := (course (.drive h level) d).of_dead rfl slot
    rw [answer, left]
    exact .inr ⟨(fun _ set => nomatch set), rfl⟩
  | some p =>
    obtain ⟨c, grants, rfl⟩ := granted.leased h p slot
    obtain ⟨drives, refuses⟩ := perform_drive slot level
    by_cases output : c.direction = .output
    · obtain ⟨done, left⟩ := drives output
      rw [done, left]
      change Explains history line _ _ ((d.device.drive c.line level).level line)
      rw [Lines.level_drive]
      refine explains_ite (fun here => .written grants here.symm) fun elsewhere level' set => ?_
      cases set with
      | written grants' on =>
        rw [granted.once h _ _ grants' grants] at on
        exact elsewhere on.symm
    · obtain ⟨failed, left⟩ := refuses output
      rw [failed, left]
      exact .inr ⟨(fun _ set => nomatch set), rfl⟩

private theorem Granted.level (granted : Granted history d) (step : Step d e d') (line : UInt32) :
    Explains history line e (d.device.level line) (d'.device.level line) := by
  cases step with
  | asked k =>
    cases k with
    | request c => exact level_request c d line
    | drive h level => exact granted.level_drive h level line
    | release h | level h | name h | direction h | line h =>
      refine .inr ⟨(fun _ set => nomatch set), other_level ?_ ?_ d line⟩
      · exact fun _ same => nomatch same
      · exact fun _ _ same => nomatch same
  | driven line' level =>
    change Explains history line _ _ ((d.device.drive line' level).level line)
    rw [Lines.level_drive]
    refine explains_ite ?_ fun elsewhere level' set => ?_
    · rintro rfl
      exact .driven
    · cases set
      exact elsewhere rfl
  | elsewhere draws => exact .inr ⟨(fun _ set => nomatch set), rfl⟩
  | ended perm => exact .inr ⟨(fun _ set => nomatch set), dismissAll_level _ _ _⟩

private theorem Reached.latest (reached : Reached history d) (line : UInt32) :
    Latest line history (d.device.level line) := by
  induction reached with
  | start counter => exact .low
  | step reached step ih =>
    rcases reached.granted.level step line with sets | ⟨leaves, same⟩
    · exact .set sets
    · rw [same]
      exact .unset leaves ih

/-! ### What is read and written -/

/-- The event is not one of those that set the line: it is refused, it is about another line, or it is
of a kind that sets no line. -/
inductive Idle (history : History) (line : UInt32) : Entry → Prop
  | refused {k : Command} {f : Fault} : Idle history line (.asked k (.error f))
  | input {c : Config} {answer : Except Fault Answer} (input : c.direction = .input) :
    Idle history line (.asked (.request c) answer)
  | requestElsewhere {c : Config} {answer : Except Fault Answer} (other : c.line ≠ line) :
    Idle history line (.asked (.request c) answer)
  | writeElsewhere {c : Config} {h : Handle} {level : Bool} {answer : Except Fault Answer}
    (grants : Grants history h c) (other : c.line ≠ line) : Idle history line (.asked (.drive h level) answer)
  | driveElsewhere {other : UInt32} {level : Bool} (differs : other ≠ line) :
    Idle history line (.driven other level)
  | released {h : Handle} {answer : Except Fault Answer} : Idle history line (.asked (.release h) answer)
  | read {h : Handle} {answer : Except Fault Answer} : Idle history line (.asked (.level h) answer)
  | elsewhere : Idle history line .elsewhere
  | ended : Idle history line .ended

private theorem Granted.not_sets_of_idle (granted : Granted history d) (idle : Idle history line e)
    (level : Bool) :
    ¬ Sets history line e level := by
  intro sets
  cases sets with
  | driven =>
    cases idle with
    | driveElsewhere differs => exact differs rfl
  | started on output =>
    cases idle with
    | input input => cases input.symm.trans output
    | requestElsewhere other => exact other on
  | written grants on =>
    cases idle with
    | writeElsewhere grants' other =>
      rw [granted.once _ _ _ grants' grants] at other
      exact other on

/-- The handle is live, and it was given out for these settings. -/
def Serves (history : History) (d : Desk Lines Config UInt32) (h : Handle) (c : Config) : Prop :=
  Grants history h c ∧ d.leases.keyOf? h ≠ none

private theorem Granted.slot_of_live (granted : Granted history d) {h : Handle}
    (live : d.leases.keyOf? h ≠ none) :
    ∃ c, Grants history h c ∧ d.leases.slots.get? h = some (c.line, ⟨c, c.line⟩) := by
  obtain ⟨key, known⟩ := Option.ne_none_iff_exists'.mp live
  obtain ⟨lease, slot⟩ := HandleTable.keyOf?_eq_some_iff.mp known
  obtain ⟨c, grants, entry⟩ := granted.leased h _ slot
  rw [entry] at slot
  exact ⟨c, grants, slot⟩

private theorem Granted.slot (granted : Granted history d) {h : Handle} {c : Config}
    (serves : Serves history d h c) : d.leases.slots.get? h = some (c.line, ⟨c, c.line⟩) := by
  obtain ⟨c', grants, slot⟩ := granted.slot_of_live serves.2
  rw [granted.once h c c' serves.1 grants]
  exact slot

/-- The levels are as the history has it, and they are what is read and written. -/
structure Faithful (history : History) (d : Desk Lines Config UInt32) : Prop where
  level : ∀ line level, Latest line history level ↔ d.device.level line = level
  /-- A live handle serves one line, for as long as it is live. -/
  serves : ∀ h, d.leases.keyOf? h ≠ none → ∃ c, Serves history d h c
  once : ∀ h c c', Serves history d h c → Serves history d h c' → c = c'
  read : ∀ h c, Serves history d h c →
    (driver.perform (.level h) d).answer = .ok (.level (d.device.level c.line))
  /-- What is written to an output is read back. -/
  written : ∀ h c, Serves history d h c → c.direction = .output → ∀ level,
    (driver.perform (.drive h level) d).answer = .ok .done ∧
      (driver.perform (.level h) (driver.perform (.drive h level) d).state).answer = .ok (.level level)
  /-- Nothing is written to an input, or under a handle that is not live. -/
  refused : ∀ h, (∀ c, Serves history d h c → c.direction = .input) → ∀ level,
    ∃ f, (driver.perform (.drive h level) d).answer = .error f
  idle : ∀ e d' line, Step d e d' → Idle history line e → d'.device.level line = d.device.level line

/-- Whatever happens at a desk on simulated lines and around it, and whoever owns a line in the course
of it, the level of a line is the one that it got last, from outside, by a write that was done or by a
request as an output that was granted, and low if there was none. This is read under a live handle.
Nothing else changes the level of the line. -/
theorem levels_are_the_latest {history : History} {d : Desk Lines Config UInt32}
    (reached : Reached history d) : Faithful history d := by
  have granted := reached.granted
  refine ⟨fun line level => ?_, fun h live => ?_, fun h c c' serves serves' => ?_, fun h c serves => ?_,
    fun h c serves output level => ?_, fun h inputs level => ?_, fun e d' line step idle => ?_⟩
  · constructor
    · exact fun latest => (reached.latest line).unique latest
    · rintro rfl
      exact reached.latest line
  · obtain ⟨c, grants, _⟩ := granted.slot_of_live live
    exact ⟨c, grants, live⟩
  · exact granted.once h c c' serves.1 serves'.1
  · exact (perform_level (granted.slot serves)).1
  · have live := granted.slot serves
    obtain ⟨done, left⟩ := (perform_drive live level).1 output
    refine ⟨done, ?_⟩
    have still : (driver.perform (.drive h level) d).state.leases.slots.get? h =
        some (c.line, ⟨c, c.line⟩) := by
      rw [left]
      exact Desk.slots_after live _
    rw [(perform_level still).1, left]
    exact congrArg (fun b => Except.ok (Answer.level b)) ((level_drive _ _ _ _).trans (if_pos rfl))
  · by_cases dead : d.leases.keyOf? h = none
    · have unknown := (course (.drive h level) d).of_dead rfl (Option.map_eq_none_iff.mp dead)
      exact ⟨_, unknown.1⟩
    · obtain ⟨c, grants, slot⟩ := granted.slot_of_live dead
      have input : c.direction ≠ .output := by
        rw [inputs c ⟨grants, dead⟩]
        decide
      exact ⟨_, ((perform_drive slot level).2 input).1⟩
  · rcases granted.level step line with sets | ⟨_, same⟩
    · exact absurd sets (granted.not_sets_of_idle idle _)
    · exact same

/-- A line is set high by its first owner. The second has it as an input and cannot set it low, and
reads it high. -/
theorem line_of_two_owners :
    let ask (k : Command) (d : Desk Lines Config UInt32) := (driver.perform k d).state
    let left := ask (.release ⟨1⟩)
      (ask (.drive ⟨1⟩ true) (ask (.request (.output 3 false)) (Desk.vacant {} 1)))
    let d := ask (.drive ⟨2⟩ false) (ask (.request (.input 3)) left)
    (∃ history, Reached history d) ∧ (driver.perform (.level ⟨2⟩) d).answer = .ok (.level true) := by
  intro ask left d
  have first : Reached _ left :=
    (((Reached.start 1).step (.asked (.request (.output 3 false)))).step (.asked (.drive ⟨1⟩ true))).step
      (.asked (.release ⟨1⟩))
  have second : Reached _ d :=
    (first.step (.asked (.request (.input 3)))).step (.asked (.drive ⟨2⟩ false))
  have faithful := levels_are_the_latest second
  refine ⟨⟨_, second⟩, (faithful.read ⟨2⟩ (.input 3) ⟨?_, by decide⟩).trans ?_⟩
  · exact grants_cons.mpr (.inr (grants_cons.mpr (.inl rfl)))
  · have high : d.device.level 3 = true := by decide
    exact congrArg (fun b => Except.ok (Answer.level b)) high

end Peripherals.Gpio.Lines

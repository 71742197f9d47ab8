import Peripherals.Gpio.Switch
import Peripherals.Proofs.Gpio.Lines
import Peripherals.Proofs.Text.Numerals
/-!
The names under which a switch answers. Main statement: they are `value`, the name that the user gave
to the line, and all spellings of its number; every other name is refused before anything is done; and
on simulated outputs it does not matter which of the names is used.
-/

set_option autoImplicit false

namespace Peripherals.Gpio.Switch

open Peripherals.Text (Unsigned)

/-! ### Names -/

/-- The text is a numeral of the line, bare or behind the word `gpio`. -/
inductive Numbers (line : UInt32) (name : String) : Prop
  | bare (spells : Unsigned name.toList line.toNat)
  | behind {s : List Char} (word : name.toList = "gpio".toList ++ s) (spells : Unsigned s line.toNat)

/-- The names of a line that was asked for with these settings. -/
inductive Named (c : Config) : String → Prop
  | value : Named c "value"
  | own : Named c c.name
  | number {name : String} (numbers : Numbers c.line name) : Named c name

private theorem isNumberOf_iff {line : UInt32} {s : List Char} :
    isNumberOf line s = true ↔ Unsigned s line.toNat := by
  rw [isNumberOf, beq_iff_eq, Text.unsigned?_eq_some_iff]
  exact and_iff_left line.toNat_lt

private theorem afterGpio?_eq_some_iff {s rest : List Char} :
    afterGpio? s = some rest ↔ s = "gpio".toList ++ rest := by
  unfold afterGpio?
  constructor
  · intro found
    split at found
    · rw [Option.some.inj found]
      rfl
    · cases found
  · rintro rfl
    rfl

private theorem numbers_iff {line : UInt32} {name : String} : Numbers line name ↔
    isNumberOf line name.toList = true ∨
      ∃ s, afterGpio? name.toList = some s ∧ isNumberOf line s = true := by
  constructor
  · rintro (spells | ⟨word, spells⟩)
    · exact .inl (isNumberOf_iff.mpr spells)
    · exact .inr ⟨_, afterGpio?_eq_some_iff.mpr word, isNumberOf_iff.mpr spells⟩
  · rintro (number | ⟨s, found, number⟩)
    · exact .bare (isNumberOf_iff.mp number)
    · exact .behind (afterGpio?_eq_some_iff.mp found) (isNumberOf_iff.mp number)

private theorem answersTo_iff {c : Config}
    {name : String} : answersTo c name = true ↔ Named c name := by
  have cases_of : Named c name ↔ (name = "value" ∨ name = c.name) ∨ Numbers c.line name := by
    constructor
    · rintro (_ | _ | numbers)
      · exact .inl (.inl rfl)
      · exact .inl (.inr rfl)
      · exact .inr numbers
    · rintro ((rfl | rfl) | numbers)
      · exact .value
      · exact .own
      · exact .number numbers
  rw [cases_of, numbers_iff, ← or_assoc]
  unfold answersTo
  cases afterGpio? name.toList <;> simp

instance (c : Config) (name : String) : Decidable (Named c name) :=
  decidable_of_iff (answersTo c name = true) answersTo_iff

private theorem not_unsigned_gpio {s : List Char} {n : Nat} : ¬ Unsigned ("gpio".toList ++ s) n := by
  intro spells
  obtain ⟨c, t, same, first⟩ := spells.front
  obtain ⟨rfl, -⟩ := List.cons.inj same
  revert first
  decide

private theorem Numbers.unique {line line' : UInt32} {name : String} (numbers : Numbers line name)
    (numbers' : Numbers line' name) : line = line' := by
  refine UInt32.toNat_inj.mp ?_
  cases numbers with
  | bare spells =>
    cases numbers' with
    | bare spells' => exact spells.unique spells'
    | behind word' spells' =>
      rw [word'] at spells
      exact absurd spells not_unsigned_gpio
  | behind word spells =>
    cases numbers' with
    | bare spells' =>
      rw [word] at spells'
      exact absurd spells' not_unsigned_gpio
    | behind word' spells' =>
      obtain rfl := List.append_cancel_left (word.symm.trans word')
      exact spells.unique spells'

/-! ### Calls -/

def unknown (c : Config) (name : String) : Refusal :=
  .unsupported ("Unknown feature '" ++ name ++ "' for gpio " ++ Text.number c.line.toNat)

private theorem checkName_eq (c : Config) (name : String) :
    checkName c name = if Named c name then .ok () else .error (unknown c name) := by
  unfold checkName
  simp only [answersTo_iff]
  rfl

section

variable {σ C : Type} {d : Driver σ C} {x : Switch} {name : String}

private theorem turn_named (named : Named x.pin.settings name) (on : Bool) :
    x.turn d name on = Action.capable (d.drive x.pin.handle on) := by
  rw [turn, checkName_eq, if_pos named]
  rfl

private theorem isOn_named (named : Named x.pin.settings name) :
    x.isOn d name = Action.capable (d.level x.pin.handle) := by
  rw [isOn, checkName_eq, if_pos named]
  rfl

private theorem turn_unknown (other : ¬ Named x.pin.settings name) (on : Bool)
    (desk : Desk σ Config C) :
    x.turn d name on desk = ⟨.error (unknown x.pin.settings name), [], desk⟩ := by
  rw [turn, checkName_eq, if_neg other]
  rfl

private theorem isOn_unknown (other : ¬ Named x.pin.settings name) (desk : Desk σ Config C) :
    x.isOn d name desk = ⟨.error (unknown x.pin.settings name), [], desk⟩ := by
  rw [isOn, checkName_eq, if_neg other]
  rfl

private theorem capable_apply {α : Type} (work : Action Fault σ α) (s : σ) : Action.capable work s =
    ⟨(work s).answer.mapError Refusal.fault, (work s).events, (work s).state⟩ := rfl

private theorem capable_ne_unknown {α : Type} (work : Action Fault σ α) (s : σ) (c : Config) :
    (Action.capable work s).answer ≠ .error (unknown c name) := by
  rw [capable_apply]
  cases (work s).answer <;> exact fun refused => nomatch refused

variable (d x name) in
/-- A switch passes on what it is asked under a name of its line. It refuses every other name by the
same words in all its calls, and leaves the desk as it is. -/
structure GoesByName (desk : Desk σ Config C) : Prop where
  turn_named : Named x.pin.settings name →
    ∀ on, x.turn d name on desk = Action.capable (d.drive x.pin.handle on) desk
  isOn_named : Named x.pin.settings name →
    x.isOn d name desk = Action.capable (d.level x.pin.handle) desk
  turn_refused : ∀ on, (x.turn d name on desk).answer = .error (unknown x.pin.settings name) ↔
    ¬ Named x.pin.settings name
  isOn_refused : (x.isOn d name desk).answer = .error (unknown x.pin.settings name) ↔
    ¬ Named x.pin.settings name
  untouched : ¬ Named x.pin.settings name →
    (∀ on, (x.turn d name on desk).events = [] ∧ (x.turn d name on desk).state = desk) ∧
      (x.isOn d name desk).events = [] ∧ (x.isOn d name desk).state = desk

private theorem goesByName (desk : Desk σ Config C) : GoesByName d x name desk where
  turn_named named on := congrFun (turn_named named on) desk
  isOn_named named := congrFun (isOn_named named) desk
  turn_refused on := by
    constructor
    · intro refused named
      rw [turn_named named] at refused
      exact capable_ne_unknown _ _ _ refused
    · intro other
      rw [turn_unknown other]
  isOn_refused := by
    constructor
    · intro refused named
      rw [isOn_named named] at refused
      exact capable_ne_unknown _ _ _ refused
    · intro other
      rw [isOn_unknown other]
  untouched other := by
    refine ⟨fun on => ?_, ?_⟩
    · rw [turn_unknown other]
      exact ⟨rfl, rfl⟩
    · rw [isOn_unknown other]
      exact ⟨rfl, rfl⟩

end

/-! ### Runs -/

/-- What is asked of a switch. -/
inductive Call where
  | turn (name : String) (on : Bool)
  | isOn (name : String)
  deriving DecidableEq

def Call.perform {σ C : Type} (d : Driver σ C) (x : Switch) :
    Call → Action Refusal (Desk σ Config C) (Option Bool)
  | .turn name on => (fun _ => none) <$> x.turn d name on
  | .isOn name => some <$> x.isOn d name

def Call.leaves (c : Config) (before : Bool) : Call → Bool
  | .turn name on => if Named c name then on else before
  | .isOn _ => before

/-- The level to which an output was last turned under a name of its own. -/
def lastTurned (c : Config) (before : Bool) (calls : List Call) : Bool :=
  calls.foldl (Call.leaves c) before

section

variable {c : Config} {h : Handle} {desk : Desk Lines Config UInt32} {name : String}

/-- The handle is live, and its lease is the one that was asked for. -/
def Holds (c : Config) (h : Handle) (desk : Desk Lines Config UInt32) : Prop :=
  desk.leases.slots.get? h = some (c.line, ⟨c, c.line⟩)

private theorem Holds.after (holds : Holds c h desk) (l : Lines) :
    Holds c h (desk.after h (l, ⟨c, c.line⟩)) :=
  Desk.slots_after holds _

private theorem Holds.turn (holds : Holds c h desk) (output : c.direction = .output)
    (named : Named c name)
    (on : Bool) : let x : Switch := ⟨h, c, false⟩
    (x.turn Lines.driver name on desk).answer = .ok () ∧
      (x.turn Lines.driver name on desk).state =
        desk.after h (desk.device.drive c.line on, ⟨c, c.line⟩) := by
  intro x
  rw [turn_named (x := x) named, capable_apply]
  change Except.mapError _ (Desk.withLease h (Lines.driver.driveLine on) desk).answer = _ ∧
    (Desk.withLease h (Lines.driver.driveLine on) desk).state = _
  rw [Desk.withLease_live holds]
  rw [Lines.driveLine_apply, if_pos output]
  exact ⟨rfl, rfl⟩

private theorem Holds.isOn (holds : Holds c h desk)
    (named : Named c name) : let x : Switch := ⟨h, c, false⟩
    (x.isOn Lines.driver name desk).answer = .ok (desk.device.level c.line) ∧
      (x.isOn Lines.driver name desk).state = desk.after h (desk.device, ⟨c, c.line⟩) := by
  intro x
  rw [isOn_named (x := x) named, capable_apply]
  change Except.mapError _ (Desk.withLease h _ desk).answer = _ ∧ (Desk.withLease h _ desk).state = _
  rw [Desk.withLease_live holds]
  exact ⟨rfl, rfl⟩

private theorem Holds.perform (holds : Holds c h desk) (output : c.direction = .output) (call : Call) :
    let left := (call.perform Lines.driver ⟨h, c, false⟩ desk).state
    Holds c h left ∧ left.device.level c.line = call.leaves c (desk.device.level c.line) := by
  cases call with
  | turn name on =>
    rw [Call.perform, Action.map_apply, Call.leaves]
    by_cases named : Named c name
    · rw [(holds.turn output named on).2, if_pos named]
      exact ⟨holds.after _, (Lines.level_drive _ _ _ _).trans (if_pos rfl)⟩
    · rw [turn_unknown (x := ⟨h, c, false⟩) named, if_neg named]
      exact ⟨holds, rfl⟩
  | isOn name =>
    rw [Call.perform, Action.map_apply, Call.leaves]
    by_cases named : Named c name
    · rw [(holds.isOn named).2]
      exact ⟨holds.after _, rfl⟩
    · rw [isOn_unknown (x := ⟨h, c, false⟩) named]
      exact ⟨holds, rfl⟩

private theorem Holds.run (holds : Holds c h desk) (output : c.direction = .output)
    (calls : List Call) :
    let later := Action.runAll (Call.perform Lines.driver ⟨h, c, false⟩) calls desk
    Holds c h later ∧ later.device.level c.line = lastTurned c (desk.device.level c.line) calls := by
  induction calls generalizing desk with
  | nil => exact ⟨holds, rfl⟩
  | cons call calls ih =>
    obtain ⟨holds', level⟩ := holds.perform output call
    obtain ⟨later, levels⟩ := ih holds'
    rw [level] at levels
    exact ⟨later, levels⟩

private theorem holds_of_live {os : List (Occurrence Command (UInt32 × Bool))}
    (granted : (Lines.driver.request c desk).answer = .ok h)
    (live : (Action.runAll Lines.happen os (Lines.driver.request c desk).state).leases.keyOf? h ≠ none) :
    Holds c h (Action.runAll Lines.happen os (Lines.driver.request c desk).state) := by
  have start : (Lines.driver.request c desk).state.Lasting h c.line (· = ⟨c, c.line⟩) := by
    refine Lines.driver.device.lasting_of_request granted fun line claim => ?_
    rw [show Lines.driver.device.claim c desk.device = _ from Lines.claim_apply c desk.device] at claim
    rw [Except.ok.inj claim]
  have lasts : Desk.Lasting (Action.runAll Lines.happen os _) h c.line (· = ⟨c, c.line⟩) :=
    start.run (fun k d lasting => lasting.perform Lines.driver.perform_eq k (Lines.spares _ k)) os
  obtain ⟨lease, slot, rfl⟩ := lasts.live live
  exact slot

end

/-- A switch answers to `value`, to the name that its user gave to the line, and to every decimal
spelling of its number, bare or behind the word `gpio`, and no such spelling is one of another line.
Over every driver and at every desk what is asked under such a name goes to the line, and under any
other name it is refused by the same words, reports nothing and changes nothing, whether the line is an
input or an output. On a simulated output, whatever was done at the desk before, all names tell the
level to which the switch was last turned, under whichever of them. -/
theorem answers_to_its_names_only :
    (∀ (c : Config) (name : String), answersTo c name = true ↔ Named c name) ∧
    (∀ {line line' : UInt32} {name : String}, Numbers line name → Numbers line' name → line = line') ∧
    (∀ {σ C : Type} (d : Driver σ C) (x : Switch) (name : String) (desk : Desk σ Config C),
      GoesByName d x name desk) ∧
    ∀ (desk : Desk Lines Config UInt32) (c : Config) (h : Handle)
      (os : List (Occurrence Command (UInt32 × Bool))) (calls : List Call),
      let x : Switch := ⟨h, c, false⟩
      let now := Action.runAll Lines.happen os (Lines.driver.request c desk).state
      let later := Action.runAll (Call.perform Lines.driver x) calls now
      c.direction = .output → (Lines.driver.request c desk).answer = .ok h →
      now.leases.keyOf? h ≠ none → ∀ name, Named c name →
        (x.isOn Lines.driver name later).answer =
          .ok (lastTurned c (now.device.level c.line) calls) ∧
        ∀ on, (x.turn Lines.driver name on later).answer = .ok () ∧
          ∀ name', Named c name' →
            (x.isOn Lines.driver name' (x.turn Lines.driver name on later).state).answer = .ok on := by
  refine ⟨fun c name => answersTo_iff, fun numbers numbers' => numbers.unique numbers',
    fun d x name desk => goesByName desk, ?_⟩
  intro desk c h os calls x now later output granted live name named
  obtain ⟨holds, level⟩ := (holds_of_live granted live).run output calls
  refine ⟨?_, fun on => ?_⟩
  · rw [← level]
    exact (holds.isOn named).1
  · obtain ⟨turned, state⟩ := holds.turn output named on
    refine ⟨turned, fun name' named' => ?_⟩
    rw [state]
    refine (holds.after _).isOn named' |>.1.trans ?_
    exact congrArg Except.ok ((Lines.level_drive _ _ _ _).trans (if_pos rfl))

/-- A lamp that is switched on by its own name and off by the number of another line is on, and its
number is no number of that line. -/
theorem lamp_under_long_number :
    let c := (Config.output 21 false).withName "lamp"
    let x : Switch := ⟨⟨1⟩, c, false⟩
    let granted := (Lines.driver.request c (Desk.vacant {} 1)).state
    let now := Action.runAll Lines.happen [.outside (21, false), .command (.request (.input 22))] granted
    let later := Action.runAll (Call.perform Lines.driver x) [.turn "lamp" true, .turn "gpio22" false] now
    (x.isOn Lines.driver "gpio+0021" later).answer = .ok true ∧ ¬ Numbers 22 "gpio+0021" := by
  intro c x granted now later
  have numbers : Numbers 21 "gpio+0021" := numbers_iff.mpr (.inr ⟨"+0021".toList, rfl, by decide⟩)
  have on := (answers_to_its_names_only.2.2.2 (Desk.vacant {} 1) c ⟨1⟩
    [.outside (21, false), .command (.request (.input 22))] [.turn "lamp" true, .turn "gpio22" false]
    rfl (by decide) (by decide) "gpio+0021" (.number numbers)).1
  refine ⟨on.trans (congrArg Except.ok (by decide)), fun other => ?_⟩
  exact absurd (answers_to_its_names_only.2.1 numbers other) (by decide)

end Peripherals.Gpio.Switch

import Peripherals.Adc.Iio
import Peripherals.Proofs.Adc.Recording
import Peripherals.Proofs.Files.Exporting
import Peripherals.Proofs.Files.Frame
import Peripherals.Proofs.Pwm.Use
/-!
The territories of lines and channels: the two files of their class through which they are exported, and
their own attributes. Main statements: the drivers keep to them, and the drivers of inputs change nothing.
-/

set_option autoImplicit false

namespace Peripherals

open FileTree (Place OpenFile Confined fileSystem spelled)
open Peripherals.Action (Leads Maintains)

/-! ### Exports -/

namespace Exporting

variable {places : Place → Prop} {start : FileTree} {C α : Type}

private theorem claim_confined {path : Path} {out back : Action Fault FileTree Unit}
    {configure : Action Fault FileTree α} {Q : α → FileTree → Prop} (make : Bool → α → C)
    (report : Fault → Event) (hout : Maintains (Confined places start) out)
    (hback : Maintains (Confined places start) back)
    (hconfigure : Leads (Confined places start) configure
      (fun a t => Confined places start t ∧ Q a t) (Confined places start)) :
    Leads (Confined places start) (claim (fileSystem.isPresent path) out (undo back report) configure make)
      (fun c t => ∃ exported a, c = make exported a ∧ Confined places start t ∧ Q a t)
      (Confined places start) :=
  claim_leads make (FileTree.isPresent_keeps path) hout (undo_leads hback report) hconfigure

end Exporting

/-! ### Lines -/

namespace Gpio.Sysfs

variable (g : Sysfs)

/-- The places that belong to a line. -/
inductive Owns (line : UInt32) : Place → Prop
  | port {name : String} (member : name ∈ ["export", "unexport"]) :
    Owns line (spelled (g.classDir.join name))
  | within {name : String} (member : name ∈ ["direction", "edge", "value"]) :
    Owns line (spelled ((g.lineDir line).join name))

def territory : Territory (Line OpenFile) where
  owns := g.Owns
  knows line t channel := t.OpenAt (spelled ((g.lineDir line).join "value")) channel.value.file
  carried confined opened := confined.openAt opened

variable {g}

private theorem exportLine_confined (line key : UInt32) (start : FileTree) :
    Maintains (Confined (g.Owns key) start) (exportLine fileSystem g line) :=
  (Attribute.store_confined (.port (by decide)) _).bind fun _ => Maintains.note _

private theorem unexportLine_confined (line key : UInt32) (start : FileTree) :
    Maintains (Confined (g.Owns key) start) (unexportLine fileSystem g line) :=
  Attribute.store_confined (.port (by decide)) _

private theorem configure_confined (c : Config) (start : FileTree) :
    Leads (Confined (g.Owns c.line) start) (configure fileSystem g c)
      (fun value t => Confined (g.Owns c.line) start t ∧
        t.OpenAt (spelled ((g.lineDir c.line).join "value")) value.file)
      (Confined (g.Owns c.line) start) := by
  rw [configure_eq]
  refine (Attribute.store_confined (.within (by decide)) _).bind fun _ => Leads.bind
    (Q := fun _ => Confined (g.Owns c.line) start) ?_ fun _ => ?_
  · split
    · exact Attribute.store_confined (.within (by decide)) _
    · exact Maintains.pure
  · unfold openValue
    cases c.direction with
    | input => exact Attribute.openRead_leads _
    | output => exact Attribute.openUpdate_leads _

private theorem value_guards {α : Type} {x : Action Fault (FileTree × Attribute OpenFile) α}
    (holds : ∀ line start, Maintains (Attribute.Held (g.Owns line) start
      (spelled ((g.lineDir line).join "value"))) x) : g.territory.Guards (Action.zoom valueLens x) :=
  fun line start => .of_keeps fun p kept => (holds line start).keeps (s := (p.1, p.2.value)) kept

private theorem read_guards : g.territory.Guards (driver fileSystem g).read := by
  refine value_guards fun line start => Attribute.read_held.bind fun value => ?_
  exact Leads.bind (Q := fun _ => Attribute.Held _ start _) (.of_keeps fun _ held => held)
    fun _ => Maintains.ofExcept _

private theorem write_guards (level : Bool) : g.territory.Guards ((driver fileSystem g).write level) :=
  value_guards fun _ _ => Attribute.write_held (.within (by decide)) _

private theorem close_guards : g.territory.Guards (close fileSystem g) := by
  intro line start
  rw [close_eq]
  exact Exporting.close_leads _ (fun channel => unexportLine_confined channel.line line start)
    fun _ opened => opened

theorem governs : g.territory.Governs (driver fileSystem g).device where
  claim c start := by
    change Leads _ (claim fileSystem g c) _ _
    rw [claim_eq]
    refine (Exporting.claim_confined _ _ (exportLine_confined c.line c.line start)
      (unexportLine_confined c.line c.line start) (configure_confined c start)).weaken
      (fun _ kept => kept) ?_ fun _ kept => kept
    rintro _ t ⟨exported, value, rfl, kept, opened⟩
    exact ⟨kept, opened⟩
  rest := .of_still fun _ => rfl
  close := .zoom close_guards

theorem works_mind (k : Command) (h : Handle)
    (work : Action Fault (FileTree × Lease Config (Line OpenFile)) Answer)
    (use : (driver fileSystem g).errand k = .use h work) : g.territory.Minds work := by
  cases k with
  | request | release | name | direction | line => cases use
  | level h =>
    cases use
    exact (Territory.Minds.zoom read_guards).map _
  | drive h level =>
    cases use
    refine .map (.bind (.of_still fun _ => rfl) fun p => ?_) _
    dsimp only
    split
    · exact .zoom (write_guards level)
    · exact .of_still fun _ => rfl

end Gpio.Sysfs

/-! ### Channels -/

namespace Pwm.Sysfs

variable (s : Sysfs)

/-- The places that belong to a channel. -/
inductive Owns (pin : UInt32) : Place → Prop
  | port {name : String} (member : name ∈ ["export", "unexport"]) :
    Owns pin (spelled (s.chipDir.join name))
  | within (part : Part) : Owns pin (spelled (s.partPath pin part))

def territory : Territory Channel where
  owns := s.Owns
  knows pin _ channel := channel.dir = s.channelDir pin
  carried _ same := same

variable {s}

private theorem exportChannel_confined (pin key : UInt32) (start : FileTree) :
    Maintains (Confined (s.Owns key) start) (exportChannel fileSystem s pin) :=
  (Attribute.store_confined (.port (by decide)) _).bind fun _ => Maintains.note _

private theorem unexportChannel_confined (pin key : UInt32) (start : FileTree) :
    Maintains (Confined (s.Owns key) start) (unexportChannel fileSystem s pin) :=
  Attribute.store_confined (.port (by decide)) _

private theorem store_confined (pin : UInt32) (part : Part) (value : String) (start : FileTree) :
    Maintains (Confined (s.Owns pin) start) (Attribute.store fileSystem (s.partPath pin part) value) :=
  Attribute.store_confined (.within part) value

private theorem standsStill_confined (dir : Path) (key : UInt32) (start : FileTree) :
    Maintains (Confined (s.Owns key) start) (standsStill fileSystem dir) := by
  refine (Maintains.attempt (Attribute.load_still _)).bind fun result => ?_
  cases result with
  | ok value => exact Maintains.pure
  | error e => exact Maintains.pure

private theorem configure_confined (c : Config) (start : FileTree) :
    Maintains (Confined (s.Owns c.pin) start) (configure fileSystem s c) := by
  have signal := (store_confined (s := s) c.pin .duty "0" start).bind fun _ =>
    (store_confined c.pin .period (Text.number c.period.toNat) start).bind fun _ =>
      (store_confined c.pin .duty (Text.number c.duty.toNat) start).bind fun _ =>
        store_confined c.pin .polarity c.polarity.name start
  refine (standsStill_confined (s.channelDir c.pin) c.pin start).bind fun still => ?_
  cases still with
  | true => exact signal
  | false => exact (store_confined c.pin .enable "0" start).bind fun _ => signal

private theorem set_guards (part : Part) (value : String) :
    s.territory.Guards (set fileSystem part.name value) := by
  intro pin start
  refine .of_keeps fun p kept => ⟨?_, kept.2⟩
  have own : s.Owns pin (spelled (p.2.dir.join part.name)) := by
    have dir : p.2.dir = s.channelDir pin := kept.2
    rw [dir]
    exact .within part
  exact (Attribute.store_confined own value).keeps kept.1

private theorem calls_guards (verb : Verb) : s.territory.Guards ((driver fileSystem s).calls verb) := by
  cases verb with
  | setRunning on => exact set_guards .enable _
  | setPeriod period => exact set_guards .period _
  | setDuty duty => exact set_guards .duty _
  | setPolarity polarity => exact set_guards .polarity _

private theorem turn_minds (verb : Verb) : s.territory.Minds ((driver fileSystem s).turn verb) :=
  .bind (.zoom (calls_guards verb)) fun _ => .of_still fun _ => rfl

private theorem recorded_minds : s.territory.Minds Driver.recorded := .of_still fun _ => rfl

private theorem turnIf_minds (running : Bool) (verb : Verb) : s.territory.Minds
    (if running then (driver fileSystem s).turn verb else pure ()) := by
  split
  · exact turn_minds verb
  · exact .of_still fun _ => rfl

private theorem close_guards : s.territory.Guards (close fileSystem s) := by
  intro pin start
  rw [close_eq]
  exact Exporting.close_leads _ (fun channel => unexportChannel_confined channel.pin pin start)
    fun _ same => same

theorem governs : s.territory.Governs (driver fileSystem s).device where
  claim c start := by
    change Leads _ (claim fileSystem s c.config) _ _
    rw [claim_eq]
    have configures := (configure_confined (s := s) c.config start).weaken (fun _ kept => kept)
      (fun _ _ kept => And.intro kept trivial) fun _ kept => kept
    refine (Exporting.claim_confined _ _ (exportChannel_confined c.config.pin c.config.pin start)
      (unexportChannel_confined c.config.pin c.config.pin start) configures).weaken
      (fun _ kept => kept) ?_ fun _ kept => kept
    rintro _ t ⟨exported, _, rfl, kept, -⟩
    exact ⟨kept, rfl⟩
  rest := recorded_minds.bind fun signal => turnIf_minds signal.running (.setRunning false)
  close := .zoom close_guards

theorem works_mind (k : Command) (h : Handle) (work : Action Fault (FileTree × Lease Signal Channel) Answer)
    (use : (driver fileSystem s).errand k = .use h work) : s.territory.Minds work := by
  cases k with
  | request | release | config | isEnabled => cases use
  | enable h =>
    cases use
    exact (turn_minds (.setRunning true)).map _
  | disable h =>
    cases use
    exact (turn_minds (.setRunning false)).map _
  | setPeriod h period =>
    cases use
    rw [Driver.changePeriod_eq_turn]
    refine .map (recorded_minds.bind fun signal => ?_) _
    exact .bind (.of_still fun _ => rfl) fun _ => turn_minds (.setPeriod period)
  | setDuty h duty =>
    cases use
    rw [Driver.changeDuty_eq_turn]
    refine .map (recorded_minds.bind fun signal => ?_) _
    exact .bind (.of_still fun _ => rfl) fun _ => turn_minds (.setDuty duty)
  | setPolarity h polarity =>
    cases use
    rw [Driver.changePolarity_eq_turn]
    refine .map (recorded_minds.bind fun signal => (turnIf_minds signal.running _).bind fun _ => ?_) _
    exact (turn_minds (.setPolarity polarity)).bind fun _ => turnIf_minds signal.running _

end Pwm.Sysfs

/-! ### Inputs -/

namespace Adc

/-- Nothing that is done with inputs changes the device. -/
structure Driver.Idle {σ C : Type} (d : Driver σ C) : Prop where
  claim : ∀ c s, (d.claim c s).state = s
  read : ∀ p, (d.read p).state.1 = p.1
  close : ∀ p, (d.close p).state.1 = p.1

namespace Driver.Idle

variable {σ C : Type} {d : Driver σ C} (idle : d.Idle) (desk : Desk σ Config C)

include idle

theorem perform (k : Command) : (d.perform k desk).state.device = desk.device := by
  have course := (d.errand k).course d.device .granted .done desk
  rw [← d.perform_eq] at course
  refine course.device_related (R := fun s s' => s' = s) (fun _ => rfl) idle.claim (fun h work use p => ?_)
    fun p => idle.close (p.1, p.2.channel)
  cases k with
  | request | release | config => cases use
  | value h =>
    cases use
    rw [Action.map_apply]
    exact idle.read (p.1, p.2.channel)

theorem teardown : (d.device.teardown desk).state.device = desk.device := by
  have dismisses (order : List (Handle × UInt32 × Lease Config C)) (s : σ) :
      (d.device.dismissAll order s).state = s := by
    induction order generalizing s with
    | nil => rfl
    | cons e order ih =>
      obtain ⟨h, key, lease⟩ := e
      rw [d.device.dismissAll_cons, ih, d.device.dismiss_state]
      exact idle.close (s, lease.channel)
  exact dismisses desk.leases.entries desk.device

end Driver.Idle

theorem Iio.idle (i : Iio) : (Iio.driver fileSystem i).Idle where
  claim c t := by
    have opens : Maintains (· = t) (Attribute.openRead fileSystem (i.channelPath c.pin)) :=
      Leads.bind (Q := fun _ => (· = t))
        (Leads.mapError (.of_keeps fun u same => (u.openRead_state _).trans same)) fun _ => Maintains.pure
    exact (opens.bind fun raw => (Maintains.note _).bind fun _ => Maintains.pure).keeps rfl
  read p := by
    have reads : Maintains (fun q : FileTree × Attribute OpenFile => q.1 = p.1) (Attribute.read fileSystem) :=
      Attribute.read_moves (R := fun t _ => t = p.1) fun _ _ _ same => same
    have parses : Maintains (fun q : FileTree × Attribute OpenFile => q.1 = p.1) (do
        let value ← Attribute.read fileSystem
        Action.ofExcept (countOf (← Action.get).2.path value)) :=
      reads.bind fun value => Leads.bind (Q := fun _ q => q.1 = p.1) (.of_keeps fun _ same => same)
        fun _ => Maintains.ofExcept _
    exact parses.keeps (s := (p.1, p.2.raw)) rfl
  close _ := rfl

private theorem Rtos.onFile_still {α : Type} {t : FileTree}
    {work : Action IoError (FileTree × OpenFile) α}
    (moves : FileTree.Moves work) :
    Maintains (fun q : FileTree × Channel OpenFile => q.1 = t) (onFile work) := by
  refine .of_keeps fun q same => ?_
  obtain ⟨position, state⟩ := moves (q.1, q.2.file)
  have still : (work (q.1, q.2.file)).state.1 = q.1 := congrArg (·.1) state
  exact still.trans same

theorem Rtos.idle (r : Rtos) : (Rtos.driver fileSystem r).Idle where
  claim c t := by
    have opens : Maintains (· = t) (Action.mapError (Fault.ofIo r.devicePath)
        (fileSystem.openRead r.devicePath)) :=
      Leads.mapError (.of_keeps fun u same => (u.openRead_state _).trans same)
    have claims : Maintains (· = t) ((Rtos.driver fileSystem r).claim c) := by
      unfold Rtos.driver
      dsimp only
      split
      · exact Maintains.fail
      · exact opens.bind fun file => (Maintains.note _).bind fun _ => Maintains.pure
    exact claims.keeps rfl
  read p := by
    have picks : Maintains (fun q : FileTree × Channel OpenFile => q.1 = p.1) (do
        let bytes ← onFile (fileSystem.readUpTo (Sample.size * samplesPerRead))
        let channel := (← Action.get).2
        pick channel.path channel.pin bytes) := by
      refine (Rtos.onFile_still (FileTree.moves_readUpTo _)).bind fun bytes => Leads.bind
        (Q := fun _ q => q.1 = p.1) (.of_keeps fun _ same => same) fun q => .of_keeps fun q' same => ?_
      rw [(pick_apply _ _ _ q').2]
      exact same
    have reads : Maintains (fun q => q.1 = p.1) ((Rtos.driver fileSystem r).read) := by
      unfold Rtos.driver
      dsimp only
      split
      · exact (Rtos.onFile_still (FileTree.moves_control _)).bind fun _ => picks
      · exact (Rtos.onFile_still FileTree.moves_rewind).bind fun _ => picks
    exact reads.keeps rfl
  close _ := rfl

end Adc

end Peripherals

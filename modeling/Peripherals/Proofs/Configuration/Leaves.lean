import Peripherals.Configuration.Basic
import Peripherals.Proofs.Setting.Merging
import Peripherals.Setting.Format
/-!
A configuration as its sections, and a section as its leaves. Main statements: settings are read as a
configuration exactly if every leaf is read from what is given for it and takes its default where nothing
is given; and a leaf is read from a value without parts, wherever the value stands.
-/

set_option autoImplicit false

namespace Peripherals

open Document

variable {V ε ε' α β : Type}

theorem mapError_eq_ok_iff {x : Except ε α} {f : ε → ε'} {a : α} : x.mapError f = .ok a ↔ x = .ok a := by
  cases x <;> simp [Except.mapError]

/-! ### Forms -/

namespace Document.Form

/-- A value is read from what is given, or it is the default. -/
def Takes (read : V → Except ε α) (default : α) (given : Option V) (a : α) : Prop :=
  match given with
  | none => a = default
  | some v => read v = .ok a

theorem withDefault_ok_iff {name : String} {default a : α} {read : V → Except ε α}
    {record : String → Option V} :
    withDefault name default read record = .ok a ↔ Takes read default (record name) a := by
  unfold withDefault Takes
  cases record name with
  | none => exact ⟨fun eq => (Except.ok.inj eq).symm, fun eq => congrArg Except.ok eq.symm⟩
  | some v => exact mapError_eq_ok_iff

theorem map_ok_iff {f : α → β} {x : Form V ε α} {record : String → Option V} {b : β} :
    (f <$> x) record = .ok b ↔ ∃ a, x record = .ok a ∧ f a = b := by
  change (x record).map f = _ ↔ _
  cases x record <;> simp [Except.map]

theorem seq_ok_iff {f : Form V ε (α → β)} {x : Form V ε α} {record : String → Option V} {b : β} :
    (f <*> x) record = .ok b ↔ ∃ g a, f record = .ok g ∧ x record = .ok a ∧ g a = b := by
  change ap f x record = _ ↔ _
  unfold ap
  cases f record <;> cases x record <;> simp

end Document.Form

/-! ### Records of settings -/

namespace Setting

/-- What a record of settings is read from. A list with items is left out here. -/
def parts? : Setting → Option (String → Option Setting)
  | .group _ fields => some fun key => fields.lookup key
  | .list _ [] => some fun _ => none
  | _ => none

/-- A list with items, which stand for fields in order. -/
def isRow : Setting → Bool
  | .list _ (_ :: _) => true
  | _ => false

private theorem readRecord_ok_iff {v : Placed} (named : v.setting.isRow = false) {title : String}
    {names : List String} {form : Form Placed Misplaced α} {a : α} :
    v.readRecord title names form = .ok a ↔ ∃ look, v.setting.parts? = some look ∧
      form (fun name => (look name).map (v.below name)) = .ok a := by
  obtain ⟨path, s⟩ := v
  cases s with
  | scalar source x => simp [Placed.readRecord, parts?, Placed.notA, Placed.misfit]
  | list source items =>
    cases items with
    | cons item items => cases named
    | nil =>
      simp only [Placed.readRecord, parts?, Option.some.injEq, exists_eq_left', List.getElem?_nil,
        Option.map_none]
      cases form fun _ => none with
      | ok b => simp only [Except.ok.injEq]
      | error m =>
        simp only [reduceCtorEq, iff_false]
        split <;> simp [Placed.notA, Placed.misfit]
  | group source fields =>
    simp only [Placed.readRecord, parts?, Option.some.injEq, exists_eq_left']
    cases form fun name => (fields.lookup name).map (Placed.below ⟨path, .group source fields⟩ name) with
    | ok b => simp only [Except.ok.injEq]
    | error m =>
      simp only [reduceCtorEq, iff_false]
      split <;> simp [Placed.notA, Placed.misfit]

private theorem record_ok_iff {v : Placed} (named : v.setting.isRow = false) {title : String}
    {names : List String} {form : Form Placed Misplaced α} {a : α} :
    format.record title names form v = .ok a ↔
      ∃ look, (∃ parts, v.setting.parts? = some parts ∧ (fun name => (parts name).map (v.below name)) = look) ∧
        form look = .ok a := by
  rw [exists_exists_and_eq_and]
  exact readRecord_ok_iff named

end Setting

namespace Configuration

/-! ### Sections and leaves -/

/-- The sections of a configuration. -/
inductive Section where
  | application
  | platform
  | adc
  | gpio
  | pwm

namespace Section

def name : Section → String
  | .application => "application"
  | .platform => "platform"
  | .adc => "adc"
  | .gpio => "gpio"
  | .pwm => "pwm"

abbrev Value : Section → Type
  | .application => Application
  | .platform => Board
  | .adc => Analog
  | .gpio => Digital
  | .pwm => Pulse

def of (c : Configuration) : (sec : Section) → sec.Value
  | .application => c.application
  | .platform => c.board
  | .adc => c.adc
  | .gpio => c.gpio
  | .pwm => c.pwm

def keys : Section → List String
  | .application => Application.fields
  | .platform => Board.fields
  | .adc => Analog.fields
  | .gpio => Digital.fields
  | .pwm => Pulse.fields

def read (f : Format V ε) : (sec : Section) → V → Except ε sec.Value
  | .application => Application.read f
  | .platform => Board.read f
  | .adc => Analog.read f
  | .gpio => Digital.read f
  | .pwm => Pulse.read f

end Section

/-- The leaves of a section, with the types of their values. -/
inductive Leaf : Section → Type → Type where
  | name : Leaf .application String
  | logLevel : Leaf .application String
  | logFormat : Leaf .application String
  | logSpanEvents : Leaf .application Bool
  | logFileAndLine : Leaf .application Bool
  | logThreadNames : Leaf .application Bool
  | model : Leaf .platform (Option String)
  | sysfsRoot : Leaf .platform String
  | devRoot : Leaf .platform String
  | procRoot : Leaf .platform String
  | analogBacking : Leaf .adc (Option Backing)
  | device : Leaf .adc UInt32
  | triggerRequest : Leaf .adc UInt64
  | digitalBacking : Leaf .gpio (Option Backing)
  | pulseBacking : Leaf .pwm (Option Backing)
  | chip : Leaf .pwm UInt32

namespace Leaf

variable {sec : Section}

def key : Leaf sec α → String
  | .name => "name"
  | .logLevel => "log_level"
  | .logFormat => "log_format"
  | .logSpanEvents => "log_span_events"
  | .logFileAndLine => "log_file_and_line"
  | .logThreadNames => "log_thread_names"
  | .model => "model"
  | .sysfsRoot => "sysfs_root"
  | .devRoot => "dev_root"
  | .procRoot => "proc_root"
  | .analogBacking | .digitalBacking | .pulseBacking => "backend"
  | .device => "device"
  | .triggerRequest => "trigger_request"
  | .chip => "chip"

def of : Leaf sec α → sec.Value → α
  | .name => Application.name
  | .logLevel => Application.logLevel
  | .logFormat => Application.logFormat
  | .logSpanEvents => Application.logSpanEvents
  | .logFileAndLine => Application.logFileAndLine
  | .logThreadNames => Application.logThreadNames
  | .model => Board.model
  | .sysfsRoot => Board.sysfsRoot
  | .devRoot => Board.devRoot
  | .procRoot => Board.procRoot
  | .analogBacking => Analog.backing
  | .device => Analog.device
  | .triggerRequest => Analog.triggerRequest
  | .digitalBacking => Digital.backing
  | .pulseBacking => Pulse.backing
  | .chip => Pulse.chip

def value (ℓ : Leaf sec α) (c : Configuration) : α :=
  ℓ.of (sec.of c)

def read (f : Format V ε) : Leaf sec α → V → Except ε α
  | .name | .logLevel | .logFormat => f.text
  | .logSpanEvents | .logFileAndLine | .logThreadNames => f.flag
  | .model => f.optional f.text
  | .sysfsRoot | .devRoot | .procRoot => f.pathText
  | .analogBacking | .digitalBacking | .pulseBacking => f.optional (Backing.read f)
  | .device | .chip => f.word32
  | .triggerRequest => f.word64

end Leaf

/-- A section is known by its leaves. -/
theorem Section.ext_leaves {sec : Section} {a b : sec.Value}
    (same : ∀ {α} (ℓ : Leaf sec α), ℓ.of a = ℓ.of b) : a = b := by
  cases sec with
  | application =>
    obtain ⟨⟩ := a
    obtain ⟨⟩ := b
    exact Application.mk.injEq .. ▸ ⟨same .name, same .logLevel, same .logFormat, same .logSpanEvents,
      same .logFileAndLine, same .logThreadNames⟩
  | platform =>
    obtain ⟨⟩ := a
    obtain ⟨⟩ := b
    exact Board.mk.injEq .. ▸ ⟨same .model, same .sysfsRoot, same .devRoot, same .procRoot⟩
  | adc =>
    obtain ⟨⟩ := a
    obtain ⟨⟩ := b
    exact Analog.mk.injEq .. ▸ ⟨same .analogBacking, same .device, same .triggerRequest⟩
  | gpio =>
    obtain ⟨⟩ := a
    obtain ⟨⟩ := b
    exact Digital.mk.injEq .. ▸ same .digitalBacking
  | pwm =>
    obtain ⟨⟩ := a
    obtain ⟨⟩ := b
    exact Pulse.mk.injEq .. ▸ ⟨same .pulseBacking, same .chip⟩

theorem ext_leaves {c d : Configuration} (same : ∀ {sec α} (ℓ : Leaf sec α), ℓ.value c = ℓ.value d) :
    c = d := by
  have sections (sec : Section) : sec.of c = sec.of d := Section.ext_leaves fun ℓ => same ℓ
  obtain ⟨⟩ := c
  obtain ⟨⟩ := d
  exact Configuration.mk.injEq .. ▸ ⟨sections .application, sections .platform, sections .adc,
    sections .gpio, sections .pwm⟩

open Form (map_ok_iff seq_ok_iff withDefault_ok_iff)

section Read

variable {f : Format V ε} {v : V} {Parts : (String → Option V) → Prop}

/-- A format that reads records from their parts reads a section if it reads each leaf. -/
theorem Section.read_iff (sec : Section) (records : ∀ {α : Type} {title : String}
      {form : Form V ε α} {a : α}, f.record title sec.keys form v = .ok a ↔
        ∃ look, Parts look ∧ form look = .ok a) {a : sec.Value} :
    sec.read f v = .ok a ↔ ∃ look, Parts look ∧
      ∀ {α} (ℓ : Leaf sec α), Form.Takes (ℓ.read f) (ℓ.of (sec.of {})) (look ℓ.key) (ℓ.of a) := by
  cases sec with
  | application =>
    refine records.trans (exists_congr fun look => and_congr_right fun _ => ?_)
    simp only [map_ok_iff, seq_ok_iff, withDefault_ok_iff]
    constructor
    · rintro ⟨_, _, ⟨_, _, ⟨_, _, ⟨_, _, ⟨_, _, ⟨_, name, rfl⟩, level, rfl⟩, format, rfl⟩, spans, rfl⟩,
        lines, rfl⟩, threads, rfl⟩ α ℓ
      cases ℓ <;> assumption
    · exact fun each => ⟨_, _, ⟨_, _, ⟨_, _, ⟨_, _, ⟨_, _, ⟨_, each .name, rfl⟩, each .logLevel, rfl⟩,
        each .logFormat, rfl⟩, each .logSpanEvents, rfl⟩, each .logFileAndLine, rfl⟩,
        each .logThreadNames, rfl⟩
  | platform =>
    refine records.trans (exists_congr fun look => and_congr_right fun _ => ?_)
    simp only [map_ok_iff, seq_ok_iff, withDefault_ok_iff]
    constructor
    · rintro ⟨_, _, ⟨_, _, ⟨_, _, ⟨_, model, rfl⟩, sysfs, rfl⟩, dev, rfl⟩, proc, rfl⟩ α ℓ
      cases ℓ <;> assumption
    · exact fun each => ⟨_, _, ⟨_, _, ⟨_, _, ⟨_, each .model, rfl⟩, each .sysfsRoot, rfl⟩,
        each .devRoot, rfl⟩, each .procRoot, rfl⟩
  | adc =>
    refine records.trans (exists_congr fun look => and_congr_right fun _ => ?_)
    simp only [map_ok_iff, seq_ok_iff, withDefault_ok_iff]
    constructor
    · rintro ⟨_, _, ⟨_, _, ⟨_, backing, rfl⟩, device, rfl⟩, trigger, rfl⟩ α ℓ
      cases ℓ <;> assumption
    · exact fun each => ⟨_, _, ⟨_, _, ⟨_, each .analogBacking, rfl⟩, each .device, rfl⟩,
        each .triggerRequest, rfl⟩
  | gpio =>
    refine records.trans (exists_congr fun look => and_congr_right fun _ => ?_)
    simp only [map_ok_iff, withDefault_ok_iff]
    constructor
    · rintro ⟨_, backing, rfl⟩ α ℓ
      cases ℓ
      assumption
    · exact fun each => ⟨_, each .digitalBacking, rfl⟩
  | pwm =>
    refine records.trans (exists_congr fun look => and_congr_right fun _ => ?_)
    simp only [map_ok_iff, seq_ok_iff, withDefault_ok_iff]
    constructor
    · rintro ⟨_, _, ⟨_, backing, rfl⟩, chip, rfl⟩ α ℓ
      cases ℓ <;> assumption
    · exact fun each => ⟨_, _, ⟨_, each .pulseBacking, rfl⟩, each .chip, rfl⟩

theorem read_iff (records : ∀ {α : Type} {title : String} {form : Form V ε α} {a : α},
      f.record title fields form v = .ok a ↔ ∃ look, Parts look ∧ form look = .ok a)
    {c : Configuration} : Configuration.read f v = .ok c ↔ ∃ look, Parts look ∧
      ∀ sec : Section, Form.Takes (sec.read f) (sec.of {}) (look sec.name) (sec.of c) := by
  refine records.trans (exists_congr fun look => and_congr_right fun _ => ?_)
  simp only [map_ok_iff, seq_ok_iff, withDefault_ok_iff]
  constructor
  · rintro ⟨_, _, ⟨_, _, ⟨_, _, ⟨_, _, ⟨_, application, rfl⟩, platform, rfl⟩, adc, rfl⟩, gpio, rfl⟩, pwm,
      rfl⟩ sec
    cases sec <;> assumption
  · exact fun each => ⟨_, _, ⟨_, _, ⟨_, _, ⟨_, _, ⟨_, each .application, rfl⟩, each .platform, rfl⟩,
      each .adc, rfl⟩, each .gpio, rfl⟩, each .pwm, rfl⟩

end Read

theorem Section.read_ok_iff (sec : Section) {v : Setting.Placed} (named : v.setting.isRow = false)
    {a : sec.Value} : sec.read Setting.format v = .ok a ↔ ∃ look, v.setting.parts? = some look ∧
      ∀ {α} (ℓ : Leaf sec α), Form.Takes (ℓ.read Setting.format) (ℓ.of (sec.of {}))
        ((look ℓ.key).map (v.below ℓ.key)) (ℓ.of a) := by
  refine (sec.read_iff (Setting.record_ok_iff named)).trans ?_
  simp only [exists_exists_and_eq_and]

theorem read_ok_iff {v : Setting.Placed} (named : v.setting.isRow = false) {c : Configuration} :
    Configuration.read Setting.format v = .ok c ↔ ∃ look, v.setting.parts? = some look ∧
      ∀ sec : Section, Form.Takes (sec.read Setting.format) (sec.of {})
        ((look sec.name).map (v.below sec.name)) (sec.of c) := by
  refine (read_iff (Setting.record_ok_iff named)).trans ?_
  simp only [exists_exists_and_eq_and]

end Configuration

/-! ### Values without parts -/

namespace Setting

/-- The reader takes nothing but values without parts, and sees neither the place nor the source of a
value. -/
structure OfScalar (read : Placed → Read α) : Prop where
  scalar : ∀ {v : Placed} {a : α}, read v = .ok a → ∃ source x, v.setting = .scalar source x
  blind : ∀ {path path' : List String} {source source' : Source} {x : Scalar} {a : α},
    read ⟨path, .scalar source x⟩ = .ok a → read ⟨path', .scalar source' x⟩ = .ok a

namespace OfScalar

private theorem readText (expected : String) : OfScalar fun v => v.readText expected where
  scalar {v a} read := by
    obtain ⟨path, s⟩ := v
    cases s with
    | scalar source x => exact ⟨source, x, rfl⟩
    | list | group => cases read
  blind {_ _ _ _ x _} read := by
    cases x with
    | text | letter => exact read
    | _ => cases read

private theorem readFlag : OfScalar fun v => v.readFlag where
  scalar {v a} read := by
    obtain ⟨path, s⟩ := v
    cases s with
    | scalar source x => exact ⟨source, x, rfl⟩
    | list | group => cases read
  blind {_ _ _ _ x _} read := by
    cases x with
    | flag => exact read
    | _ => cases read

private theorem readWord (bits : Nat) : OfScalar fun v => v.readWord bits where
  scalar {v a} read := by
    obtain ⟨path, s⟩ := v
    cases s with
    | scalar source x => exact ⟨source, x, rfl⟩
    | list | group => cases read
  blind {_ _ _ _ x _} read := by
    cases x with
    | signed n | unsigned n =>
      simp only [Placed.readWord] at read ⊢
      split at read
      · next small => rw [if_pos small]; exact read
      · cases read
    | _ => cases read

private theorem readChoice (title : String) (names : List String) :
    OfScalar fun v => v.readChoice title names where
  scalar {v a} read := by
    obtain ⟨path, s⟩ := v
    cases s with
    | scalar source x => exact ⟨source, x, rfl⟩
    | list => cases read
    | group source fields =>
      simp only [Placed.readChoice] at read
      split at read
      · cases read
      · split at read <;> cases read
  blind {_ _ _ _ x _} read := by
    cases x with
    | text s =>
      simp only [Placed.readChoice] at read ⊢
      split at read
      · next known => rw [if_pos known]; exact read
      · cases read
    | _ => cases read

private theorem map {read : Placed → Read α} (h : OfScalar read) (f : α → β) :
    OfScalar fun v => (read v).map f where
  scalar {v b} done := by
    cases eq : read v with
    | error m => rw [eq] at done; cases done
    | ok a => exact h.scalar eq
  blind {path path' source source' x b} done := by
    cases eq : read ⟨path, .scalar source x⟩ with
    | error m => rw [eq] at done; cases done
    | ok a =>
      have moved : read ⟨path', .scalar source' x⟩ = .ok a := h.blind eq
      rw [eq] at done
      rw [moved]
      exact done

end OfScalar

end Setting

namespace Configuration.Leaf

variable {sec : Section}

theorem ofScalar (ℓ : Leaf sec α) : Setting.OfScalar (ℓ.read Setting.format) := by
  cases ℓ with
  | name | logLevel | logFormat => exact .readText _
  | logSpanEvents | logFileAndLine | logThreadNames => exact .readFlag
  | model => exact (Setting.OfScalar.readText _).map some
  | sysfsRoot | devRoot | procRoot => exact .readText _
  | analogBacking | digitalBacking | pulseBacking => exact ((Setting.OfScalar.readChoice _ _).map _).map some
  | device | chip => exact (Setting.OfScalar.readWord 32).map _
  | triggerRequest => exact (Setting.OfScalar.readWord 64).map _

/-- The leaf has this value if this is set for it. -/
def Reads (ℓ : Leaf sec α) (s : Setting) (a : α) : Prop :=
  ℓ.read Setting.format ⟨[], s⟩ = .ok a

/-- The leaf has this value if this is set for it, or nothing is. -/
def Follows (ℓ : Leaf sec α) (given : Option Setting) (a : α) : Prop :=
  match given with
  | none => a = ℓ.value {}
  | some s => ℓ.Reads s a

private theorem read_ok_iff (ℓ : Leaf sec α) {v : Setting.Placed} {a : α} :
    ℓ.read Setting.format v = .ok a ↔ ℓ.Reads v.setting a := by
  obtain ⟨path, s⟩ := v
  constructor
  · intro read
    obtain ⟨source, x, rfl⟩ := ℓ.ofScalar.scalar read
    exact ℓ.ofScalar.blind read
  · intro read
    obtain ⟨source, x, rfl⟩ := ℓ.ofScalar.scalar read
    exact ℓ.ofScalar.blind read

theorem takes_iff (ℓ : Leaf sec α) {v : Setting.Placed} {given : Option Setting} {a : α} :
    Form.Takes (ℓ.read Setting.format) (ℓ.of (sec.of {})) (given.map (v.below ℓ.key)) a ↔
      ℓ.Follows given a := by
  cases given with
  | none => exact Iff.rfl
  | some s => exact ℓ.read_ok_iff

/-- Where the later layer says something of a leaf, the earlier one does not matter. -/
theorem follows_over (ℓ : Leaf sec α) {earlier later : Option Setting} {a : α} :
    ℓ.Follows (Setting.stacked earlier later) a ↔ ℓ.Follows (later.or earlier) a := by
  cases later with
  | none => cases earlier <;> exact Iff.rfl
  | some v =>
    cases earlier with
    | none => exact Iff.rfl
    | some w =>
      cases v with
      | scalar | list => exact Iff.rfl
      | group source fields =>
        have never (s : Setting) (grouped : ∃ source fields, s = .group source fields) : ¬ ℓ.Reads s a := by
          obtain ⟨source, fields, rfl⟩ := grouped
          intro read
          obtain ⟨_, _, same⟩ := ℓ.ofScalar.scalar read
          cases same
        refine iff_of_false (never _ ?_) (never _ ⟨source, fields, rfl⟩)
        cases w <;> exact ⟨_, _, rfl⟩

end Configuration.Leaf

end Peripherals

import Mathlib.Data.List.Nodup
import Peripherals.Adc.Config
import Peripherals.Gpio.Config
import Peripherals.Json.Document
import Peripherals.Proofs.Configuration.Leaves
import Peripherals.Proofs.Json.Records
import Peripherals.Proofs.Json.Spelling
import Peripherals.Pwm.Config
/-!
The records that are kept as documents: what is asked of a pin, a configuration, and each of its
sections. Main statements: a record is read if each of its fields is, from what is given for it or, where
nothing is given, from its default; and what is written for a record is read as the record, as a
document and as a text.
-/

set_option autoImplicit false

namespace Peripherals

open Document

/-! ### Fields -/

namespace Document.Form

variable {V ε α : Type} {name : String} {read : V → Except ε α} {record : String → Option V} {a : α}

/-- A value is read from what is given, or it is the default if there is one. -/
def Supplies (read : V → Except ε α) (default? : Option α) (given : Option V) (a : α) : Prop :=
  match given with
  | none => default? = some a
  | some v => read v = .ok a

private theorem takes_iff_supplies {default : α} {given : Option V} :
    Takes read default given a ↔ Supplies read (some default) given a := by
  cases given with
  | none => exact ⟨fun same => congrArg some same.symm, fun same => (Option.some.inj same).symm⟩
  | some v => exact Iff.rfl

private theorem supplied_iff {default : α} : withDefault name default read record = .ok a ↔
    Supplies read (some default) (record name) a :=
  withDefault_ok_iff.trans takes_iff_supplies

private theorem required_ok_iff :
    required name read record = .ok a ↔ Supplies read none (record name) a := by
  unfold required Supplies
  cases record name with
  | none => simp
  | some v => exact mapError_eq_ok_iff

end Document.Form

open Peripherals.Configuration (Section Leaf)

/-- The records that are kept as documents. -/
inductive Shape where
  | input
  | line
  | output
  | configuration
  | part (sec : Section)

namespace Shape

abbrev Value : Shape → Type
  | .input => Adc.Config
  | .line => Gpio.Config
  | .output => Pwm.Config
  | .configuration => Configuration
  | .part sec => sec.Value

def read {V ε : Type} (f : Format V ε) : (sh : Shape) → V → Except ε sh.Value
  | .input => Adc.Config.read f
  | .line => Gpio.Config.read f
  | .output => Pwm.Config.read f
  | .configuration => Configuration.read f
  | .part sec => sec.read f

def toJson : (sh : Shape) → sh.Value → Json
  | .input => Adc.Config.toJson
  | .line => Gpio.Config.toJson
  | .output => Pwm.Config.toJson
  | .configuration => Configuration.toJson
  | .part .application => Configuration.Application.toJson
  | .part .platform => Configuration.Board.toJson
  | .part .adc => Configuration.Analog.toJson
  | .part .gpio => Configuration.Digital.toJson
  | .part .pwm => Configuration.Pulse.toJson

def keys : Shape → List String
  | .input => Adc.Config.fields
  | .line => Gpio.Config.fields
  | .output => Pwm.Config.fields
  | .configuration => Configuration.fields
  | .part sec => sec.keys

end Shape

/-- The fields of a record, with the types of their values. -/
inductive Field : Shape → Type → Type 1 where
  | inputPin : Field .input UInt32
  | inputName : Field .input String
  | lineId : Field .line UInt32
  | lineName : Field .line String
  | direction : Field .line Gpio.Direction
  | edge : Field .line Gpio.Edge
  | initial : Field .line Bool
  | outputPin : Field .output UInt32
  | outputName : Field .output String
  | period : Field .output UInt32
  | duty : Field .output UInt32
  | polarity : Field .output Pwm.Polarity
  | part (sec : Section) : Field .configuration sec.Value
  | leaf {sec : Section} {α : Type} (ℓ : Leaf sec α) : Field (.part sec) α

namespace Field

variable {sh : Shape} {α : Type}

def key : Field sh α → String
  | .inputPin | .outputPin => "pin_num"
  | .lineId => "id"
  | .inputName | .lineName | .outputName => "name"
  | .direction => "direction"
  | .edge => "edge"
  | .initial => "initial_value"
  | .period => "period"
  | .duty => "duty_cycle"
  | .polarity => "polarity"
  | .part sec => sec.name
  | .leaf ℓ => ℓ.key

def of : Field sh α → sh.Value → α
  | .inputPin => Adc.Config.pin
  | .inputName => Adc.Config.name
  | .lineId => Gpio.Config.line
  | .lineName => Gpio.Config.name
  | .direction => Gpio.Config.direction
  | .edge => Gpio.Config.edge
  | .initial => Gpio.Config.initial
  | .outputPin => Pwm.Config.pin
  | .outputName => Pwm.Config.name
  | .period => Pwm.Config.period
  | .duty => Pwm.Config.duty
  | .polarity => Pwm.Config.polarity
  | .part sec => sec.of
  | .leaf ℓ => ℓ.of

def read {V ε : Type} (f : Format V ε) : Field sh α → V → Except ε α
  | .inputPin | .lineId | .outputPin | .period | .duty => f.word32
  | .inputName | .lineName | .outputName => f.text
  | .direction => Gpio.Direction.read f
  | .edge => Gpio.Edge.read f
  | .initial => f.flag
  | .polarity => Pwm.Polarity.read f
  | .part sec => sec.read f
  | .leaf ℓ => ℓ.read f

/-- The value of a field that is left out. Some fields cannot be left out. -/
def default? : Field sh α → Option α
  | .inputPin | .lineId | .outputPin | .period | .duty => none
  | .inputName | .lineName | .outputName => some ""
  | .direction => some .input
  | .edge => some .none
  | .initial => some false
  | .polarity => some .normal
  | .part sec => some (sec.of {})
  | @leaf sec _ ℓ => some (ℓ.of (sec.of {}))

/-- A field has a value if this is given for it. -/
abbrev Takes {V ε : Type} (p : Field sh α) (f : Format V ε) (given : Option V) (a : α) : Prop :=
  Form.Supplies (p.read f) p.default? given a

end Field

/-! ### Keys -/

def Configuration.Section.leaves : (sec : Section) → List (Sigma (Leaf sec))
  | .application => [⟨_, .name⟩, ⟨_, .logLevel⟩, ⟨_, .logFormat⟩, ⟨_, .logSpanEvents⟩,
    ⟨_, .logFileAndLine⟩, ⟨_, .logThreadNames⟩]
  | .platform => [⟨_, .model⟩, ⟨_, .sysfsRoot⟩, ⟨_, .devRoot⟩, ⟨_, .procRoot⟩]
  | .adc => [⟨_, .analogBacking⟩, ⟨_, .device⟩, ⟨_, .triggerRequest⟩]
  | .gpio => [⟨_, .digitalBacking⟩]
  | .pwm => [⟨_, .pulseBacking⟩, ⟨_, .chip⟩]

def Shape.fields : (sh : Shape) → List (Sigma (Field sh))
  | .input => [⟨_, .inputPin⟩, ⟨_, .inputName⟩]
  | .line => [⟨_, .lineId⟩, ⟨_, .lineName⟩, ⟨_, .direction⟩, ⟨_, .edge⟩, ⟨_, .initial⟩]
  | .output => [⟨_, .outputPin⟩, ⟨_, .outputName⟩, ⟨_, .period⟩, ⟨_, .duty⟩, ⟨_, .polarity⟩]
  | .configuration => [⟨_, .part .application⟩, ⟨_, .part .platform⟩, ⟨_, .part .adc⟩,
    ⟨_, .part .gpio⟩, ⟨_, .part .pwm⟩]
  | .part sec => sec.leaves.map fun ℓ => ⟨ℓ.1, .leaf ℓ.2⟩

private theorem Shape.keys_eq (sh : Shape) : sh.keys = sh.fields.map fun p => p.2.key := by
  cases sh with
  | part sec => cases sec <;> rfl
  | _ => rfl

private theorem Shape.nodup_keys (sh : Shape) : sh.keys.Nodup := by
  cases sh with
  | part sec => cases sec <;> decide
  | _ => decide

namespace Field

variable {sh : Shape} {α β : Type}

private theorem mem_fields (p : Field sh α) : ⟨α, p⟩ ∈ sh.fields := by
  cases p with
  | leaf ℓ => cases ℓ <;> simp [Shape.fields, Configuration.Section.leaves]
  | part sec => cases sec <;> simp [Shape.fields]
  | _ => simp [Shape.fields]

theorem key_mem (p : Field sh α) : p.key ∈ sh.keys := by
  rw [sh.keys_eq]
  exact List.mem_map_of_mem p.mem_fields

theorem eq_of_key {p : Field sh α} {q : Field sh β} (same : p.key = q.key) :
    (⟨α, p⟩ : Sigma (Field sh)) = ⟨β, q⟩ := by
  have distinct := sh.keys_eq ▸ sh.nodup_keys
  exact List.inj_on_of_nodup_map distinct p.mem_fields q.mem_fields same

end Field

/-! ### Reading -/

section Read

open Form (map_ok_iff seq_ok_iff supplied_iff required_ok_iff takes_iff_supplies)

variable {V ε : Type} {f : Format V ε} {v : V} {Parts : (String → Option V) → Prop}

/-- A format that reads records from their parts reads one if it reads each field. -/
private theorem Shape.read_iff (sh : Shape)
    (records : ∀ {α : Type} {title : String} {form : Form V ε α} {a : α},
      f.record title sh.keys form v = .ok a ↔ ∃ look, Parts look ∧ form look = .ok a) {x : sh.Value} :
    sh.read f v = .ok x ↔ ∃ look, Parts look ∧
      ∀ {α} (p : Field sh α), p.Takes f (look p.key) (p.of x) := by
  cases sh with
  | input =>
    refine records.trans (exists_congr fun look => and_congr_right fun _ => ?_)
    simp only [map_ok_iff, seq_ok_iff, supplied_iff, required_ok_iff]
    constructor
    · rintro ⟨_, _, ⟨_, pin, rfl⟩, name, rfl⟩ α p
      cases p <;> assumption
    · exact fun each => ⟨_, _, ⟨_, each .inputPin, rfl⟩, each .inputName, rfl⟩
  | line =>
    refine records.trans (exists_congr fun look => and_congr_right fun _ => ?_)
    simp only [map_ok_iff, seq_ok_iff, supplied_iff, required_ok_iff]
    constructor
    · rintro ⟨_, _, ⟨_, _, ⟨_, _, ⟨_, _, ⟨_, line, rfl⟩, name, rfl⟩, direction, rfl⟩, edge, rfl⟩, initial,
        rfl⟩ α p
      cases p <;> assumption
    · exact fun each => ⟨_, _, ⟨_, _, ⟨_, _, ⟨_, _, ⟨_, each .lineId, rfl⟩, each .lineName, rfl⟩,
        each .direction, rfl⟩, each .edge, rfl⟩, each .initial, rfl⟩
  | output =>
    refine records.trans (exists_congr fun look => and_congr_right fun _ => ?_)
    simp only [map_ok_iff, seq_ok_iff, supplied_iff, required_ok_iff]
    constructor
    · rintro ⟨_, _, ⟨_, _, ⟨_, _, ⟨_, _, ⟨_, pin, rfl⟩, name, rfl⟩, period, rfl⟩, duty, rfl⟩, polarity,
        rfl⟩ α p
      cases p <;> assumption
    · exact fun each => ⟨_, _, ⟨_, _, ⟨_, _, ⟨_, _, ⟨_, each .outputPin, rfl⟩, each .outputName, rfl⟩,
        each .period, rfl⟩, each .duty, rfl⟩, each .polarity, rfl⟩
  | configuration =>
    refine (Configuration.read_iff records).trans (exists_congr fun look => and_congr_right fun _ => ?_)
    constructor
    · intro each α p
      cases p with
      | part sec => exact takes_iff_supplies.mp (each sec)
    · exact fun each sec => takes_iff_supplies.mpr (each (.part sec))
  | part sec =>
    refine (sec.read_iff records).trans (exists_congr fun look => and_congr_right fun _ => ?_)
    constructor
    · intro each α p
      cases p with
      | leaf ℓ => exact takes_iff_supplies.mp (each ℓ)
    · exact fun each α ℓ => takes_iff_supplies.mpr (each (.leaf ℓ))

end Read

theorem Shape.readJson_iff (sh : Shape) {d : Json} {x : sh.Value} : sh.read Json.format d = .ok x ↔
    d.isRecord sh.keys.length = true ∧
      ∀ {α} (p : Field sh α), p.Takes Json.format (d.given sh.keys p.key) (p.of x) := by
  refine (sh.read_iff Json.record_ok_iff).trans ?_
  simp only [and_assoc, exists_and_left, exists_eq_left']

/-! ### Writing -/

def Configuration.Leaf.write {sec : Section} {α : Type} : Leaf sec α → α → Option Json
  | .name | .logLevel | .logFormat | .sysfsRoot | .devRoot | .procRoot => fun s => some (.text s)
  | .logSpanEvents | .logFileAndLine | .logThreadNames => fun b => some (.bool b)
  | .model => fun s => s.map .text
  | .analogBacking | .digitalBacking | .pulseBacking => fun b => b.map fun b => .text b.name
  | .device | .chip => fun n => some (.nat n.toNat)
  | .triggerRequest => fun n => some (.nat n.toNat)

def Field.write {sh : Shape} {α : Type} : Field sh α → α → Option Json
  | .inputPin | .lineId | .outputPin | .period | .duty => fun n => some (.nat n.toNat)
  | .inputName | .lineName | .outputName => fun s => some (.text s)
  | .direction => fun d => some (.text d.name)
  | .edge => fun e => some (.text e.name)
  | .initial => fun b => some (.bool b)
  | .polarity => fun p => some (.text p.name)
  | .part sec => fun s => some ((Shape.part sec).toJson s)
  | .leaf ℓ => ℓ.write

namespace Shape

variable {sh : Shape}

/-- What is written for a record: its fields in order, less those for which nothing is. -/
def entries (sh : Shape) (x : sh.Value) : List (String × Json) :=
  sh.fields.filterMap fun p => (p.2.write (p.2.of x)).map (p.2.key, ·)

private theorem toJson_eq (sh : Shape) (x : sh.Value) : sh.toJson x = .object (sh.entries x) := by
  cases sh with
  | part sec =>
    cases sec with
    | application => rfl
    | platform => rcases x with ⟨_ | _, _, _, _⟩ <;> rfl
    | adc => rcases x with ⟨_ | _, _, _⟩ <;> rfl
    | gpio => rcases x with ⟨_ | _⟩ <;> rfl
    | pwm => rcases x with ⟨_ | _, _⟩ <;> rfl
  | _ => rfl

private theorem mem_entries_iff {x : sh.Value} {f : String × Json} :
    f ∈ sh.entries x ↔ ∃ (α : Type) (p : Field sh α), p.write (p.of x) = some f.2 ∧ p.key = f.1 := by
  rw [entries, List.mem_filterMap]
  constructor
  · rintro ⟨⟨α, p⟩, -, found⟩
    obtain ⟨v, write, rfl⟩ := Option.map_eq_some_iff.mp found
    exact ⟨α, p, write, rfl⟩
  · rintro ⟨α, p, write, key⟩
    refine ⟨⟨α, p⟩, p.mem_fields, ?_⟩
    rw [write, Option.map_some, key]

private theorem nodup_entries (x : sh.Value) : ((sh.entries x).map Prod.fst).Nodup := by
  have sublist : ((sh.entries x).map Prod.fst).Sublist sh.keys := by
    rw [sh.keys_eq, entries]
    induction sh.fields with
    | nil => exact .slnil
    | cons p fields ih =>
      cases write : p.2.write (p.2.of x) with
      | none => simpa [write] using ih.cons p.2.key
      | some v => simpa [write] using ih
  exact sublist.nodup sh.nodup_keys

end Shape

private theorem Field.given_toJson {sh : Shape} {α : Type} (p : Field sh α) (x : sh.Value) :
    (sh.toJson x).given sh.keys p.key = p.write (p.of x) := by
  rw [sh.toJson_eq]
  change Json.under (sh.entries x) p.key = _
  cases write : p.write (p.of x) with
  | some v =>
    rw [Json.under_eq_some_iff (Shape.nodup_entries x)]
    exact Shape.mem_entries_iff.mpr ⟨α, p, write, rfl⟩
  | none =>
    rw [Json.under_eq_none_iff, List.mem_map]
    rintro ⟨f, member, same⟩
    obtain ⟨β, q, write', key⟩ := Shape.mem_entries_iff.mp member
    cases Field.eq_of_key (key.trans same)
    cases write.symm.trans write'

/-! ### Reading what is written -/

section

open Json (text_ok_iff pathText_ok_iff flag_ok_iff word32_ok_iff word64_ok_iff)

private theorem Backing.read_name (b : Backing) : Backing.read Json.format (.text b.name) = .ok b := by
  cases b <;> rfl

private theorem Gpio.Direction.read_name (d : Direction) :
    Direction.read Json.format (.text d.name) = .ok d := by
  cases d <;> rfl

private theorem Gpio.Edge.read_name (e : Edge) : Edge.read Json.format (.text e.name) = .ok e := by
  cases e <;> rfl

private theorem Pwm.Polarity.read_name (p : Polarity) : Polarity.read Json.format
    (.text p.name) = .ok p := by
  cases p <;> rfl

private theorem Json.optional_some {α : Type} {read : Json → Json.Read α} {d : Json} {a : α}
    (present : d ≠ .null) (h : read d = .ok a) : Json.format.optional read d = .ok (some a) := by
  cases d with
  | null => exact absurd rfl present
  | _ => exact congrArg (Except.map some) h

private theorem Configuration.Leaf.takes_written {sec : Section} {α : Type} (ℓ : Leaf sec α) (a : α) :
    Form.Supplies (ℓ.read Json.format) (some (ℓ.of (sec.of {}))) (ℓ.write a) a := by
  cases ℓ with
  | name | logLevel | logFormat => exact text_ok_iff.mpr rfl
  | sysfsRoot | devRoot | procRoot => exact pathText_ok_iff.mpr rfl
  | logSpanEvents | logFileAndLine | logThreadNames => exact flag_ok_iff.mpr rfl
  | device | chip => exact word32_ok_iff.mpr rfl
  | triggerRequest => exact word64_ok_iff.mpr rfl
  | model =>
    cases a with
    | none => rfl
    | some s => exact Json.optional_some (fun same => nomatch same) (text_ok_iff.mpr rfl)
  | analogBacking | digitalBacking | pulseBacking =>
    cases a with
    | none => rfl
    | some b => exact Json.optional_some (fun same => nomatch same) b.read_name

private theorem Shape.readJson_toJson_of (sh : Shape) (each : ∀ {α} (p : Field sh α) (a : α),
    p.Takes Json.format (p.write a) a) (x : sh.Value) : sh.read Json.format (sh.toJson x) = .ok x := by
  refine sh.readJson_iff.mpr ⟨?_, fun p => ?_⟩
  · rw [sh.toJson_eq]
    rfl
  · rw [p.given_toJson]
    exact each p (p.of x)

private theorem Configuration.Section.readJson_toJson (sec : Section) (s : sec.Value) :
    sec.read Json.format ((Shape.part sec).toJson s) = .ok s := by
  refine Shape.readJson_toJson_of (.part sec) (fun p a => ?_) s
  cases p with
  | leaf ℓ => exact ℓ.takes_written a

private theorem Field.takes_written {sh : Shape} {α : Type} (p : Field sh α) (a : α) :
    p.Takes Json.format (p.write a) a := by
  cases p with
  | inputPin | lineId | outputPin | period | duty => exact word32_ok_iff.mpr rfl
  | inputName | lineName | outputName => exact text_ok_iff.mpr rfl
  | direction => exact a.read_name
  | edge => exact a.read_name
  | polarity => exact a.read_name
  | initial => exact flag_ok_iff.mpr rfl
  | part sec => exact sec.readJson_toJson a
  | leaf ℓ => exact ℓ.takes_written a

theorem Shape.readJson_toJson (sh : Shape) (x : sh.Value) :
    sh.read Json.format (sh.toJson x) = .ok x :=
  sh.readJson_toJson_of Field.takes_written x

end

/-! ### Texts -/

section

open Json (Exact inOrder)

private theorem Json.under_inOrder {fields : List (String × Json)}
    (distinct : (fields.map Prod.fst).Nodup)
    (name : String) : (inOrder (.object fields)).field? name = (under fields name).map inOrder := by
  let sorted := (fieldsInOrder fields).mergeSort fun f g => f.1 ≤ g.1
  have perm : sorted.Perm (fields.map fun f => (f.1, f.2.inOrder)) :=
    fieldsInOrder_eq fields ▸ List.mergeSort_perm _ _
  have distinct' : ((fields.map fun f => (f.1, f.2.inOrder)).map Prod.fst).Nodup := by
    rwa [List.map_map]
  rw [← under_map, under_perm perm.symm distinct']
  rfl

private theorem Json.exact_word32 (n : UInt32) : (nat n.toNat).Exact := by
  have fits : n.toNat < Nat.pow 2 64 := Nat.lt_trans n.toNat_lt (by decide)
  exact .int (by omega) (Int.ofNat_lt.mpr fits)

private theorem Json.exact_word64 (n : UInt64) : (nat n.toNat).Exact :=
  .int (by omega) (Int.ofNat_lt.mpr n.toNat_lt)

namespace Configuration.Leaf

variable {sec : Section} {α : Type}

private theorem exact_write (ℓ : Leaf sec α) {a : α} {v : Json}
    (write : ℓ.write a = some v) : v.Exact := by
  cases ℓ with
  | name | logLevel | logFormat | sysfsRoot | devRoot | procRoot =>
    exact Option.some.inj write ▸ .text a
  | logSpanEvents | logFileAndLine | logThreadNames => exact Option.some.inj write ▸ .bool a
  | device | chip => exact Option.some.inj write ▸ Json.exact_word32 a
  | triggerRequest => exact Option.some.inj write ▸ Json.exact_word64 a
  | model | analogBacking | digitalBacking | pulseBacking =>
    obtain ⟨b, -, rfl⟩ := Option.map_eq_some_iff.mp write
    exact .text _

private theorem takes_inOrder (ℓ : Leaf sec α) (a : α) :
    Form.Supplies (ℓ.read Json.format) (some (ℓ.of (sec.of {}))) ((ℓ.write a).map inOrder) a := by
  have plain : (ℓ.write a).map inOrder = ℓ.write a := by
    cases ℓ with
    | model | analogBacking | digitalBacking | pulseBacking => cases a <;> rfl
    | _ => rfl
  rw [plain]
  exact ℓ.takes_written a

end Configuration.Leaf

namespace Shape

private theorem given_inOrder {sh : Shape} {α : Type} (p : Field sh α) (x : sh.Value) :
    (sh.toJson x).inOrder.given sh.keys p.key = (p.write (p.of x)).map inOrder := by
  rw [← p.given_toJson, sh.toJson_eq]
  exact Json.under_inOrder (nodup_entries x) p.key

private theorem exact_toJson_of (sh : Shape)
    (each : ∀ {α} (p : Field sh α) {a : α} {v : Json}, p.write a = some v → v.Exact) (x : sh.Value) :
    (sh.toJson x).Exact := by
  rw [sh.toJson_eq]
  refine .object fun f member => ?_
  obtain ⟨α, p, write, -⟩ := mem_entries_iff.mp member
  exact each p write

private theorem read_inOrder_of (sh : Shape) (each : ∀ {α} (p : Field sh α) (a : α),
    p.Takes Json.format ((p.write a).map inOrder) a) (x : sh.Value) :
    sh.read Json.format (sh.toJson x).inOrder = .ok x := by
  refine sh.readJson_iff.mpr ⟨?_, fun p => ?_⟩
  · rw [sh.toJson_eq]
    rfl
  · rw [given_inOrder]
    exact each p (p.of x)

end Shape

namespace Configuration.Section

private theorem exact_toJson (sec : Section) (s : sec.Value) : ((Shape.part sec).toJson s).Exact := by
  refine Shape.exact_toJson_of (.part sec) (fun p a v write => ?_) s
  cases p with
  | leaf ℓ => exact ℓ.exact_write write

private theorem read_inOrder (sec : Section) (s : sec.Value) :
    sec.read Json.format ((Shape.part sec).toJson s).inOrder = .ok s := by
  refine Shape.read_inOrder_of (.part sec) (fun p a => ?_) s
  cases p with
  | leaf ℓ => exact ℓ.takes_inOrder a

end Configuration.Section

namespace Field

variable {sh : Shape} {α : Type}

private theorem exact_write (p : Field sh α) {a : α} {v : Json}
    (write : p.write a = some v) : v.Exact := by
  cases p with
  | inputPin | lineId | outputPin | period | duty => exact Option.some.inj write ▸ Json.exact_word32 a
  | inputName | lineName | outputName => exact Option.some.inj write ▸ .text a
  | direction | edge | polarity => exact Option.some.inj write ▸ .text a.name
  | initial => exact Option.some.inj write ▸ .bool a
  | part sec => exact Option.some.inj write ▸ sec.exact_toJson a
  | leaf ℓ => exact ℓ.exact_write write

private theorem takes_inOrder (p : Field sh α) (a : α) : p.Takes Json.format
    ((p.write a).map inOrder) a := by
  cases p with
  | part sec => exact sec.read_inOrder a
  | leaf ℓ => exact ℓ.takes_inOrder a
  | _ => exact takes_written _ a

end Field

/-- The text that is written for a record is read as the record. -/
theorem Shape.ofText?_toJson (sh : Shape) (x : sh.Value) :
    ∃ d, Json.ofText? (sh.toJson x).toText = some d ∧ sh.read Json.format d = .ok x :=
  ⟨(sh.toJson x).inOrder, Json.ofText?_toText (sh.exact_toJson_of Field.exact_write x),
    sh.read_inOrder_of Field.takes_inOrder x⟩

end

end Peripherals

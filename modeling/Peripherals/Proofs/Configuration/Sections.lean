import Peripherals.Configuration.Basic
import Peripherals.Proofs.Document.Shows
/-!
The sections of a configuration as a plain document. Main statement: every format that reads plain
documents reads the configuration back from them.
-/

set_option autoImplicit false

namespace Peripherals

open Document

namespace Backing

private theorem name_injective {a b : Backing} (same : a.name = b.name) : a = b := by
  cases a <;> cases b <;> first | rfl | exact absurd same (by decide)

private theorem mem_all (b : Backing) : b ∈ all := by
  cases b <;> decide

private theorem read_shown {V ε : Type} {f : Format V ε} {shows : Toml → V → Prop}
    (laws : f.Shows shows)
    {b : Backing} {v : V} (h : shows (.text b.name) v) : Backing.read f v = .ok b :=
  laws.oneOf b.mem_all (fun _ _ => name_injective) h

end Backing

namespace Configuration

/-- A field that is left out when there is nothing to write. -/
def optionalField (name : String) (value : Option String) : List (String × Toml) :=
  (value.map fun s => (name, Toml.text s)).toList

def Application.table (s : Application) : List (String × Toml) :=
  [("name", .text s.name), ("log_level", .text s.logLevel), ("log_format", .text s.logFormat),
    ("log_span_events", .flag s.logSpanEvents), ("log_file_and_line", .flag s.logFileAndLine),
    ("log_thread_names", .flag s.logThreadNames)]

def Board.table (s : Board) : List (String × Toml) :=
  optionalField "model" s.model ++
    [("sysfs_root", .text s.sysfsRoot), ("dev_root", .text s.devRoot), ("proc_root", .text s.procRoot)]

def Analog.table (s : Analog) : List (String × Toml) :=
  optionalField "backend" (s.backing.map (·.name)) ++
    [("device", .int s.device.toNat), ("trigger_request", .int s.triggerRequest.toNat)]

def Digital.table (s : Digital) : List (String × Toml) :=
  optionalField "backend" (s.backing.map (·.name))

def Pulse.table (s : Pulse) : List (String × Toml) :=
  optionalField "backend" (s.backing.map (·.name)) ++ [("chip", .int s.chip.toNat)]

/-- The titles of a configuration and the values under each of them. -/
def sections (c : Configuration) : List (String × List (String × Toml)) :=
  [("application", c.application.table), ("platform", c.board.table), ("adc", c.adc.table),
    ("gpio", c.gpio.table), ("pwm", c.pwm.table)]

def document (c : Configuration) : Toml :=
  .table (c.sections.map fun s => (s.1, .table s.2))

/-! ### Fields -/

private theorem lookup_optionalField (k : String) (value : Option String) (rest : List (String × Toml))
    (other : rest.lookup k = none) : (optionalField k value ++ rest).lookup k = value.map .text := by
  cases value with
  | none => exact other
  | some s => simp [optionalField]

private theorem lookup_behind {k name : String} (other : (name == k) = false) {value : Option String}
    {rest : List (String × Toml)} {d : Toml} (given : rest.lookup name = some d) :
    (optionalField k value ++ rest).lookup name = some d := by
  cases value with
  | none => exact given
  | some s => simpa [optionalField, List.lookup_cons, other] using given

section Read

variable {V ε : Type} {f : Format V ε} {shows : Toml → V → Prop} (laws : f.Shows shows)
include laws

private theorem Application.read_shown {s : Application} {v : V} (h : shows (.table s.table) v) :
    Application.read f v = .ok s := by
  obtain ⟨lookup, parts, judge⟩ := laws.record h
  have text {k d a : String} (given : s.table.lookup k = some (.text a)) :
      (Form.withDefault k d f.text).Yields lookup a := Format.field_given parts given laws.text
  have flag {k : String} {d a : Bool} (given : s.table.lookup k = some (.flag a)) :
      (Form.withDefault k d f.flag).Yields lookup a := Format.field_given parts given laws.flag
  exact judge <| (Form.Yields.map _ (text rfl)).seq (text rfl) |>.seq (text rfl) |>.seq (flag rfl)
    |>.seq (flag rfl) |>.seq (flag rfl)

private theorem Board.read_shown {s : Board} {v : V} (h : shows (.table s.table) v) :
    Board.read f v = .ok s := by
  obtain ⟨lookup, parts, judge⟩ := laws.record h
  have model : (Form.withDefault "model" none (f.optional f.text)).Yields lookup s.model :=
    Format.field_optional parts laws (lookup_optionalField "model" s.model _ rfl) laws.text
  have path {k d a : String} (given : s.table.lookup k = some (.text a)) :
      (Form.withDefault k d f.pathText).Yields lookup a := Format.field_given parts given laws.pathText
  exact judge <| (Form.Yields.map _ model).seq (path (lookup_behind rfl rfl))
    |>.seq (path (lookup_behind rfl rfl)) |>.seq (path (lookup_behind rfl rfl))

private theorem backing_shown {b : Option Backing} {rest : List (String × Toml)}
    {lookup : String → Option V} (other : rest.lookup "backend" = none)
    (parts : ∀ name, Option.Rel shows
      ((optionalField "backend" (b.map (·.name)) ++ rest).lookup name) (lookup name)) :
    (Form.withDefault "backend" none (f.optional (Backing.read f))).Yields lookup b := by
  have given := lookup_optionalField "backend" (b.map (·.name)) rest other
  rw [Option.map_map] at given
  exact Format.field_optional parts laws given (Backing.read_shown laws)

private theorem Analog.read_shown {s : Analog} {v : V} (h : shows (.table s.table) v) :
    Analog.read f v = .ok s := by
  obtain ⟨lookup, parts, judge⟩ := laws.record h
  have backing := backing_shown laws rfl parts
  have device : (Form.withDefault "device" 0 f.word32).Yields lookup s.device :=
    Format.field_given parts (lookup_behind rfl rfl) laws.word32
  have request : (Form.withDefault "trigger_request" 0x0b01 f.word64).Yields lookup s.triggerRequest :=
    Format.field_given parts (lookup_behind rfl rfl) laws.word64
  exact judge <| (Form.Yields.map _ backing).seq device |>.seq request

private theorem Digital.read_shown {s : Digital} {v : V} (h : shows (.table s.table) v) :
    Digital.read f v = .ok s := by
  obtain ⟨lookup, parts, judge⟩ := laws.record h
  rw [Digital.table, ← List.append_nil (optionalField _ _)] at parts
  exact judge (Form.Yields.map _ (backing_shown laws rfl parts))

private theorem Pulse.read_shown {s : Pulse} {v : V} (h : shows (.table s.table) v) :
    Pulse.read f v = .ok s := by
  obtain ⟨lookup, parts, judge⟩ := laws.record h
  have chip : (Form.withDefault "chip" 0 f.word32).Yields lookup s.chip :=
    Format.field_given parts (lookup_behind rfl rfl) laws.word32
  exact judge <| (Form.Yields.map _ (backing_shown laws rfl parts)).seq chip

/-- **A configuration is read back** from every value that shows its document. -/
theorem read_shown {c : Configuration} {v : V} (h : shows c.document v) :
    Configuration.read f v = .ok c := by
  obtain ⟨lookup, parts, judge⟩ := laws.record h
  have sec {k : String} {α : Type} {d a : α} {read : V → Except ε α} {t : List (String × Toml)}
      (given : (c.sections.map fun s => (s.1, Toml.table s.2)).lookup k = some (.table t))
      (reads : ∀ {v}, shows (.table t) v → read v = .ok a) :
      (Form.withDefault k d read).Yields lookup a := Format.field_given parts given reads
  exact judge <| (Form.Yields.map _ (sec rfl (Application.read_shown laws)))
    |>.seq (sec rfl (Board.read_shown laws)) |>.seq (sec rfl (Analog.read_shown laws))
    |>.seq (sec rfl (Digital.read_shown laws)) |>.seq (sec rfl (Pulse.read_shown laws))

end Read

end Configuration

end Peripherals

import Peripherals.Proofs.Document.Shows
import Peripherals.Proofs.Lookup
import Peripherals.Setting.Format
/-!
Settings of plain documents: texts, integers, flags, and tables without the keys under which settings
keep something of their own. Main statement: as settings they are read as what they are.
-/

set_option autoImplicit false

namespace Peripherals.Setting

open Document

mutual

/-- Texts, integers, flags, and tables of such values that settings take as they are. -/
def isPlain : Toml → Bool
  | .text _ | .int _ | .flag _ => true
  | .table fields =>
    (fields.lookup markKey).isNone && (fields.lookup valueKey).isNone && arePlain fields
  | _ => false

def arePlain : List (String × Toml) → Bool
  | [] => true
  | (_, v) :: rest => isPlain v && arePlain rest

end

section

variable (source : Source)

theorem ofFields?_lookup {fields : List (String × Toml)} {given : List (String × Setting)}
    (h : ofFields? source fields = some given) (name : String) :
    given.lookup name = (fields.lookup name).bind (ofToml? source) := by
  induction fields generalizing given with
  | nil =>
    obtain rfl := Option.some.inj h
    rfl
  | cons f fields ih =>
    obtain ⟨k, d⟩ := f
    simp only [ofFields?, Option.bind_eq_bind, Option.bind_eq_some_iff] at h
    obtain ⟨v, first, tail, rest, eq⟩ := h
    obtain rfl := Option.some.inj eq
    by_cases same : name = k
    · simp [same, first]
    · rw [lookup_cons_of_ne same, lookup_cons_of_ne same, ih rest]

private theorem lookup_isPlain {fields : List (String × Toml)} (plain : arePlain fields = true)
    {name : String}
    {d : Toml} (given : fields.lookup name = some d) : isPlain d = true := by
  induction fields with
  | nil => cases given
  | cons f fields ih =>
    obtain ⟨k, v⟩ := f
    simp only [arePlain, Bool.and_eq_true] at plain
    by_cases same : name = k
    · simp [same] at given
      exact given ▸ plain.1
    · rw [lookup_cons_of_ne same] at given
      exact ih plain.2 given

theorem ofToml?_table {fields : List (String × Toml)} (plain : isPlain (.table fields) = true) :
    ofToml? source (.table fields) = (ofFields? source fields).map (.group source) := by
  simp only [isPlain, Bool.and_eq_true, Option.isNone_iff_eq_none] at plain
  obtain ⟨⟨mark, value⟩, -⟩ := plain
  rw [ofToml?]
  cases eq : ofFields? source fields with
  | none => rfl
  | some given => simp [ofTable?, ofFields?_lookup source eq, mark, value]

theorem ofDocument?_isPlain {d : Toml} (plain : isPlain d = true) :
    ofDocument? source d = ofToml? source d := by
  cases d with
  | table fields => exact (ofToml?_table source plain).symm
  | _ => rfl

mutual

theorem ofToml?_isPlain : ∀ {d : Toml}, isPlain d = true → (ofToml? source d).isSome = true
  | .text _, _ | .int _, _ | .flag _, _ => rfl
  | .table fields, plain => by
    rw [ofToml?_table source plain, Option.isSome_map]
    simp only [isPlain, Bool.and_eq_true] at plain
    exact ofFields?_arePlain plain.2

private theorem ofFields?_arePlain : ∀ {fields : List (String × Toml)}, arePlain fields = true →
    (ofFields? source fields).isSome = true
  | [], _ => rfl
  | (_, d) :: fields, plain => by
    simp only [arePlain, Bool.and_eq_true] at plain
    obtain ⟨v, first⟩ := Option.isSome_iff_exists.mp (ofToml?_isPlain plain.1)
    obtain ⟨given, rest⟩ := Option.isSome_iff_exists.mp (ofFields?_arePlain plain.2)
    simp [ofFields?, first, rest]

end

end

/-! ### Reading -/

/-- A setting is what a plain document becomes. -/
def Shows (d : Toml) (v : Placed) : Prop :=
  isPlain d = true ∧ ∃ source, ofToml? source d = some v.setting

private theorem Shows.scalar {d : Toml} {v : Placed} (h : Shows d v) {become : Source → Setting}
    (eq : ∀ source, ofToml? source d = some (become source)) : ∃ source, v.setting = become source := by
  obtain ⟨-, source, made⟩ := h
  exact ⟨source, Option.some.inj (made.symm.trans (eq source))⟩

/-- A record of settings is read from its fields, wherever the group as a whole comes from. -/
theorem readRecord_group {α : Type} {form : Form Placed Misplaced α} {v : Placed} {a : α}
    {outer : Source} {given : List (String × Setting)} (group : v.setting = .group outer given)
    (title : String) (names : List String)
    (read : form.Yields (fun name => (given.lookup name).map (v.below name)) a) :
    v.readRecord title names form = .ok a := by
  have ok : form (fun name => (given.lookup name).map (v.below name)) = .ok a := read
  simp only [Placed.readRecord, group, ok]

theorem format_shows : format.Shows Shows where
  text h := by
    obtain ⟨source, eq⟩ := h.scalar fun _ => rfl
    simp only [format, Placed.readText, eq]
  pathText h := by
    obtain ⟨source, eq⟩ := h.scalar fun _ => rfl
    simp only [format, Placed.readText, eq]
  flag h := by
    obtain ⟨source, eq⟩ := h.scalar fun _ => rfl
    simp only [format, Placed.readFlag, eq]
  word {n bits v} h small := by
    obtain ⟨source, eq⟩ := h.scalar fun _ => rfl
    simp only [format, Placed.readWord, eq]
    generalize Nat.pow 2 bits = bound at small ⊢
    exact (if_pos (by omega)).trans (congrArg Except.ok (Int.toNat_natCast n))
  choice h member := by
    obtain ⟨source, eq⟩ := h.scalar fun _ => rfl
    simp only [format, Placed.readChoice, eq]
    exact if_pos member
  optional h := by
    simp only [format, h]
    rfl
  record {fields v} h := by
    obtain ⟨plain, source, made⟩ := h
    rw [ofToml?_table source plain, Option.map_eq_some_iff] at made
    obtain ⟨given, fieldwise, group⟩ := made
    simp only [isPlain, Bool.and_eq_true] at plain
    refine ⟨fun name => (given.lookup name).map (v.below name), fun name => ?_,
      fun yields => readRecord_group group.symm _ _ yields⟩
    show Option.Rel Shows (fields.lookup name) ((given.lookup name).map (v.below name))
    rw [ofFields?_lookup source fieldwise]
    cases eq : fields.lookup name with
    | none => exact .none
    | some d =>
      have part := lookup_isPlain plain.2 eq
      obtain ⟨w, become⟩ := Option.isSome_iff_exists.mp (ofToml?_isPlain source part)
      rw [Option.bind_some, become]
      exact .some ⟨part, source, become⟩

end Peripherals.Setting

import Peripherals.Proofs.Configuration.Leaves
import Peripherals.Proofs.Configuration.Loading
import Peripherals.Proofs.Setting.Reordered
/-!
The layers of a configuration. Main statement: each leaf of a loaded configuration is what its variable
says, otherwise what the file says under its key, otherwise its default, and nothing else decides it.
-/

set_option autoImplicit false

namespace Peripherals

open Document (Form.Takes)
open Setting (Holds Orderly Readable valueAt? textAt? ofFields? stacked)

variable {α φ F : Type}

namespace Setting

/-- What stands under a key, if the setting is one that a record is read from. -/
def part? (s : Option Setting) (key : String) : Option Setting :=
  s.bind fun s => s.parts?.bind fun look => look key

private theorem over_group (earlier : Option Setting) {inner : List (String × Setting)}
    (nodup : (inner.map Prod.fst).Nodup) : ∃ merged,
      stacked earlier (some (.group .environment inner)) = some merged ∧ merged.isRow = false ∧
      merged.parts? = some fun key => stacked (part? earlier key) (inner.lookup key) := by
  have alone : (fun key => stacked none (inner.lookup key)) = fun key => inner.lookup key := by
    funext key
    cases inner.lookup key <;> rfl
  cases earlier with
  | none => exact ⟨_, rfl, rfl, congrArg some alone.symm⟩
  | some s =>
    cases s with
    | scalar => exact ⟨_, rfl, rfl, congrArg some alone.symm⟩
    | list _ items =>
      cases items <;> exact ⟨_, rfl, rfl, congrArg some alone.symm⟩
    | group source fields =>
      exact ⟨_, rfl, rfl, congrArg some (funext fun key => lookup_mergeFields nodup fields key)⟩

end Setting

namespace Configuration

/-! ### Sections of two layers -/

/-- A section is read from two layers if a variable sets some key of it, or the file has a table for it,
and if each of its leaves is read. -/
private theorem Section.takes_over (sec : Section) (path : List String) (outer : Setting)
    {given fields : List (String × Setting)} {view : String → String → Option Setting}
    (holds : Holds fields view)
    (named : ∀ g, given.lookup sec.name = some g → g.isRow = false) {c : Configuration} :
    Form.Takes (sec.read Setting.format) (sec.of {}) (((Setting.mergeFields given fields).lookup
        sec.name).map (Setting.Placed.below ⟨path, outer⟩ sec.name)) (sec.of c) ↔
      ((∃ key, (view sec.name key).isSome) ∨ ∀ g, given.lookup sec.name = some g → g.parts?.isSome) ∧
      ∀ {α} (ℓ : Leaf sec α), ℓ.Follows ((view sec.name ℓ.key).or
        (Setting.part? (given.lookup sec.name) ℓ.key)) (ℓ.value c) := by
  rw [Setting.lookup_mergeFields holds.nodup]
  cases later : fields.lookup sec.name with
  | none =>
    have silent : ∀ key, view sec.name key = none := holds.untouched _ later
    simp only [silent, Option.isSome_none, Bool.false_eq_true, exists_false, false_or, Option.none_or]
    cases earlier : given.lookup sec.name with
    | none =>
      constructor
      · intro same
        exact ⟨fun _ => nofun, fun ℓ => congrArg ℓ.of same⟩
      · rintro ⟨-, each⟩
        exact Section.ext_leaves fun ℓ => each ℓ
    | some g =>
      refine (Section.read_ok_iff sec (named g earlier)).trans ?_
      change (∃ look, g.parts? = some look ∧ _) ↔ _
      cases parts : g.parts? with
      | none => simp [parts]
      | some look =>
        have part (key : String) : Setting.part? (some g) key = look key := by
          simp [Setting.part?, parts]
        simp only [Option.some.injEq, exists_eq_left', forall_eq', parts, Option.isSome_some, true_and, part]
        exact forall_congr' fun _ => forall_congr' fun ℓ => ℓ.takes_iff
  | some part =>
    obtain ⟨touched, inner, rfl, nodup, parts⟩ := holds.touched _ _ later
    obtain ⟨merged, eq, rowless, held⟩ := Setting.over_group (given.lookup sec.name) nodup
    rw [eq]
    refine (Section.read_ok_iff sec rowless).trans ?_
    change (∃ look, merged.parts? = some look ∧ _) ↔ _
    simp only [held, Option.some.injEq, exists_eq_left', touched, true_or, true_and]
    refine forall_congr' fun _ => forall_congr' fun ℓ => ?_
    rw [ℓ.takes_iff, ℓ.follows_over, parts]
    rfl

/-! ### Tables of a file -/

def valueIn? (tables : List (String × Toml)) (sec key : String) : Option Toml :=
  match tables.lookup sec with
  | some (.table fields) => fields.lookup key
  | _ => none

/-- No section is given as a list of values in order, or holds the key that makes a table stand for the
value under it. -/
def Ordinary (tables : List (String × Toml)) : Prop :=
  ∀ sec : Section, match tables.lookup sec.name with
    | some (.array items) => items = []
    | some (.table fields) => fields.lookup Setting.valueKey = none
    | _ => True

def isOpen : Option Toml → Bool
  | none | some (.table _) | some (.moment _) | some (.array []) => true
  | _ => false

section

variable {source : Setting.Source} {tables : List (String × Toml)} {given : List (String × Setting)}

private theorem ofFields?_isSome_iff {fields : List (String × Toml)} :
    (ofFields? source fields).isSome ↔ ∀ f ∈ fields, (Setting.ofToml? source f.2).isSome := by
  induction fields with
  | nil => simp [ofFields?]
  | cons f fields ih =>
    obtain ⟨k, d⟩ := f
    rw [List.forall_mem_cons, ← ih, Setting.isSome_ofFields?_cons, Bool.and_eq_true]

private theorem ofToml?_plain {fields : List (String × Toml)}
    (plain : fields.lookup Setting.valueKey = none)
    {s : Setting} (made : Setting.ofToml? source (.table fields) = some s) : ∃ inner,
      s = .group source inner ∧ ∀ key, inner.lookup key = (fields.lookup key).bind (Setting.ofToml? source) := by
  rw [Setting.ofToml?, Option.bind_eq_some_iff] at made
  obtain ⟨inner, each, made⟩ := made
  have parts := Setting.ofFields?_lookup source each
  unfold Setting.ofTable? at made
  split at made
  · cases made
  · rw [parts Setting.valueKey, plain] at made
    exact ⟨inner, (Option.some.inj made).symm, parts⟩

private theorem taken_valueIn (taken : (ofFields? source tables).isSome) {sec key : String} {d : Toml}
    (found : valueIn? tables sec key = some d) : ∃ s, Setting.ofToml? source d = some s := by
  unfold valueIn? at found
  split at found
  · next fields here =>
    have table := ofFields?_isSome_iff.mp taken _ (mem_of_lookup here)
    have inner : (ofFields? source fields).isSome := by
      simp only [Setting.ofToml?] at table
      exact Option.isSome_of_isSome_bind table
    exact Option.isSome_iff_exists.mp (ofFields?_isSome_iff.mp inner _ (mem_of_lookup found))
  · cases found

/-- What the settings of a file hold under a section. -/
private theorem section_of_tables (each : ofFields? source tables = some given)
    (ordinary : Ordinary tables)
    (sec : Section) :
    (∀ g, given.lookup sec.name = some g → g.isRow = false) ∧
    ((∀ g, given.lookup sec.name = some g → g.parts?.isSome) ↔ isOpen (tables.lookup sec.name)) ∧
    ∀ {α} (ℓ : Leaf sec α), Setting.part? (given.lookup sec.name) ℓ.key =
      (valueIn? tables sec.name ℓ.key).bind (Setting.ofToml? source) := by
  have plain := ordinary sec
  unfold valueIn?
  rw [Setting.ofFields?_lookup source each]
  cases found : tables.lookup sec.name with
  | none => simp [isOpen, Setting.part?]
  | some d =>
    have taken : (ofFields? source tables).isSome := by
      rw [each]
      rfl
    obtain ⟨s, made⟩ := Option.isSome_iff_exists.mp
      (ofFields?_isSome_iff.mp taken _ (mem_of_lookup found))
    rw [found] at plain
    simp only [Option.bind_some, show Setting.ofToml? source d = some s from made, Option.some.injEq,
      forall_eq']
    cases d with
    | text | int | float | flag =>
      obtain rfl := Option.some.inj made
      exact ⟨rfl, by simp [Setting.parts?, isOpen], fun ℓ => rfl⟩
    | moment written =>
      obtain rfl := Option.some.inj made
      refine ⟨rfl, by simp [Setting.parts?, isOpen], fun ℓ => ?_⟩
      cases ℓ <;> rfl
    | array items =>
      obtain rfl : items = [] := plain
      obtain rfl := Option.some.inj made
      exact ⟨rfl, by simp [Setting.parts?, isOpen], fun ℓ => rfl⟩
    | table fields =>
      obtain ⟨inner, rfl, parts⟩ := ofToml?_plain plain made
      exact ⟨rfl, by simp [Setting.parts?, isOpen], fun ℓ => parts ℓ.key⟩

end

/-! ### Loading -/

/-- The layers can be put together: every variable can be read, every value of the file can be taken for
a setting, and no section that no variable touches is something else than a table. -/
structure Loadable (file : Path) (tables : List (String × Toml)) (vars : List (String × String)) :
    Prop where
  readable : Readable vars
  taken : (ofFields? (.file file) tables).isSome
  sectional : ∀ sec : Section, (∃ key, (valueAt? vars sec.name key).isSome) ∨
    isOpen (tables.lookup sec.name)

/-- What is set for a leaf: the value of its variable, or else the value under its key. -/
def Leaf.given? {sec : Section} (ℓ : Leaf sec α) (file : Path) (tables : List (String × Toml))
    (vars : List (String × String)) : Option Setting :=
  (valueAt? vars sec.name ℓ.key).or
    ((valueIn? tables sec.name ℓ.key).bind (Setting.ofToml? (.file file)))

section

variable {file : Path} {tables : List (String × Toml)} {vars : List (String × String)}
  {c : Configuration}

private theorem ofLayers_ok_iff {given fields : List (String × Setting)} {layer : Option Setting}
    (below : layer = none ∧ given = [] ∨ ∃ source, layer = some (.group source given))
    (each : ofFields? (.file file) tables = some given) (ordinary : Ordinary tables)
    (holds : Holds fields (valueAt? vars)) :
    ofLayers layer (.group .environment fields) = .ok c ↔
      (∀ sec : Section, (∃ key, (valueAt? vars sec.name key).isSome) ∨ isOpen (tables.lookup sec.name)) ∧
      ∀ {sec α} (ℓ : Leaf sec α), ℓ.Follows (ℓ.given? file tables vars) (ℓ.value c) := by
  obtain ⟨merged, eq, parts⟩ : ∃ merged, ofLayers layer (.group .environment fields) =
      (Configuration.read Setting.format ⟨[], .group .environment merged⟩).mapError .misplaced ∧
      ∀ key, merged.lookup key = (Setting.mergeFields given fields).lookup key := by
    rcases below with ⟨rfl, rfl⟩ | ⟨source, rfl⟩
    · refine ⟨fields, rfl, fun key => ?_⟩
      rw [Setting.lookup_mergeFields holds.nodup]
      cases fields.lookup key <;> rfl
    · exact ⟨_, rfl, fun _ => rfl⟩
  rw [eq, mapError_eq_ok_iff, read_ok_iff rfl]
  simp only [Setting.parts?, Option.some.injEq, exists_eq_left', parts]
  have sectionwise (sec : Section) := by
    obtain ⟨rowless, shape, values⟩ := section_of_tables each ordinary sec
    have taken := sec.takes_over [] (.group .environment merged) holds rowless (c := c)
    simp only [shape, values] at taken
    exact taken
  constructor
  · intro each
    exact ⟨fun sec => ((sectionwise sec).mp (each sec)).1, fun {sec _} ℓ =>
      ((sectionwise sec).mp (each sec)).2 ℓ⟩
  · rintro ⟨sectional, each⟩ sec
    exact (sectionwise sec).mpr ⟨sectional sec, fun ℓ => each ℓ⟩

variable {fs : FileSystem φ F} {s : φ}

/-- The tables of a file. A file that is missing has none. -/
inductive Contains (fs : FileSystem φ F) (file : Path) (s : φ) : List (String × Toml) → Prop
  | missing (absent : (fs.locate file s).answer ≠ .ok .file) : Contains fs file s []
  | stored {bytes : List UInt8} {text : String} {tables : List (String × Toml)}
    (stored : Stored fs file bytes s) (decoded : Text.ofBytes? bytes = some text)
    (parsed : Toml.ofText? text = some (.table tables)) : Contains fs file s tables

theorem Contains.empty (stored : Stored fs file [] s) : Contains fs file s [] :=
  .stored stored rfl rfl

private theorem Contains.unique {tables' : List (String × Toml)} (one : Contains fs file s tables)
    (two : Contains fs file s tables') : tables = tables' := by
  cases one with
  | missing absent =>
    cases two with
    | missing => rfl
    | stored stored => exact absurd stored.located absent
  | stored stored decoded parsed =>
    cases two with
    | missing absent => exact absurd stored.located absent
    | stored stored' decoded' parsed' =>
      obtain rfl := Except.ok.inj (stored.content.symm.trans stored'.content)
      obtain rfl := Option.some.inj (decoded.symm.trans decoded')
      exact Toml.table.inj (Option.some.inj (parsed.symm.trans parsed'))

private theorem readFileSettings_missing (absent : (fs.locate file s).answer ≠ .ok .file) :
    (readFileSettings fs file s).answer = .ok none := by
  simp only [readFileSettings, FileSystem.isFile, Action.bind_apply, Action.attempt_apply]
  cases located : (fs.locate file s).answer with
  | error e => rfl
  | ok kind =>
    cases kind with
    | file => exact absurd located absent
    | _ => rfl

private theorem fileSettings_parsed {bytes : List UInt8} {text : String}
    (decoded : Text.ofBytes? bytes = some text)
    (parsed : Toml.ofText? text = some (.table tables)) : fileSettings file bytes =
      match ofFields? (.file file) tables with
      | none => .error (.malformed file)
      | some given => .ok (.group (.file file) given) := by
  have document : Setting.ofDocument? (.file file) (.table tables) =
      (ofFields? (.file file) tables).map (.group (.file file)) := rfl
  simp only [fileSettings, decoded, parsed, Option.bind_some, document]
  cases ofFields? (.file file) tables <;> rfl

private theorem readFileSettings_taken (contains : Contains fs file s tables)
    {given : List (String × Setting)}
    (each : ofFields? (.file file) tables = some given) : ∃ layer,
      (readFileSettings fs file s).answer = .ok layer ∧
      (layer = none ∧ given = [] ∨ ∃ source, layer = some (.group source given)) := by
  cases contains with
  | missing absent => exact ⟨none, readFileSettings_missing absent, .inl ⟨rfl, (Option.some.inj each).symm⟩⟩
  | stored stored decoded parsed =>
    have settings : fileSettings file _ = _ := fileSettings_parsed decoded parsed
    rw [each] at settings
    have answer := (readFileSettings_stored stored).trans (congrArg (Except.map some) settings)
    exact ⟨_, answer, .inr ⟨_, rfl⟩⟩

private theorem readFileSettings_untaken (contains : Contains fs file s tables)
    (none : ofFields? (.file file) tables = none) :
    ∃ e, (readFileSettings fs file s).answer = .error e := by
  cases contains with
  | missing absent => cases none
  | stored stored decoded parsed =>
    have settings : fileSettings file _ = _ := fileSettings_parsed decoded parsed
    rw [none] at settings
    exact ⟨_, (readFileSettings_stored stored).trans (congrArg (Except.map some) settings)⟩

private theorem load_ok_iff (contains : Contains fs file s tables) (orderly : Orderly vars)
    (ordinary : Ordinary tables) : (load fs file vars s).answer = .ok c ↔
      Loadable file tables vars ∧ ∀ {sec α} (ℓ : Leaf sec α), ℓ.Follows (ℓ.given? file tables vars) (ℓ.value c) := by
  by_cases readable : Readable vars
  · obtain ⟨fields, made, holds⟩ := Setting.ofEnvironment?_readable orderly readable
    have environment : environmentSettings vars = .ok (.group .environment fields) := by
      simp only [environmentSettings, made]
    cases each : ofFields? (.file file) tables with
    | none =>
      obtain ⟨e, failed⟩ := readFileSettings_untaken contains each
      have never : ¬ Loadable file tables vars := fun loadable => by
        have taken := loadable.taken
        rw [each] at taken
        cases taken
      simp [load_ok_iff_layers, failed, never]
    | some given =>
      obtain ⟨layer, present, below⟩ := readFileSettings_taken contains each
      simp only [load_ok_iff_layers, environment, present, Except.ok.injEq, exists_and_left,
        exists_eq_left']
      rw [ofLayers_ok_iff below each ordinary holds]
      refine and_congr_left fun _ => ⟨fun sectional => ⟨readable, by rw [each]; rfl, sectional⟩, ?_⟩
      exact Loadable.sectional
  · have torn : environmentSettings vars = .error .torn := by
      unfold environmentSettings
      cases made : Setting.ofEnvironment? vars with
      | none => rfl
      | some settings => exact absurd (Setting.readable_of_ofEnvironment? orderly made) readable
    have never : ¬ Loadable file tables vars := fun loadable => readable loadable.readable
    simp [load_ok_iff_layers, torn, never]

private theorem ofText?_table {text : String} {d : Toml} (parsed : Toml.ofText? text = some d) :
    ∃ tables, d = .table tables := by
  simp only [Toml.ofText?, Option.bind_eq_bind, Option.bind_eq_some_iff, Option.some.injEq] at parsed
  obtain ⟨_, _, fields, _, rfl⟩ := parsed
  exact ⟨_, rfl⟩

private theorem contains_of_load (loaded : (load fs file vars s).answer = .ok c) :
    ∃ tables, Contains fs file s tables := by
  by_cases located : (fs.locate file s).answer = .ok .file
  · obtain ⟨-, layer, -, present, -⟩ := load_ok_iff_layers.mp loaded
    cases content : (fs.readFile file (fs.locate file s).state).answer with
    | error e =>
      simp [readFileSettings, FileSystem.isFile, Action.bind_apply, Action.mapError, located, content,
        Except.mapError] at present
    | ok bytes =>
      have stored : Stored fs file bytes s := ⟨located, content⟩
      obtain ⟨settings, made⟩ : ∃ settings, fileSettings file bytes = .ok settings := by
        rw [readFileSettings_stored stored] at present
        cases made : fileSettings file bytes with
        | ok settings => exact ⟨settings, rfl⟩
        | error e =>
          rw [made] at present
          cases present
      unfold fileSettings at made
      split at made
      · cases made
      · next text decoded =>
        cases parsed : Toml.ofText? text with
        | none => simp [parsed] at made
        | some d =>
          obtain ⟨tables, rfl⟩ := ofText?_table parsed
          exact ⟨tables, .stored stored decoded parsed⟩
  · exact ⟨[], .missing located⟩

end

/-! ### Layers that differ in order or case -/

section

open Toml (FieldsReordered)

variable {tables tables' : List (String × Toml)} (reordered : FieldsReordered tables tables')
include reordered

private theorem isOpen_reordered (key : String) : isOpen (tables.lookup key) = isOpen
    (tables'.lookup key) := by
  have part := reordered.lookup key
  generalize List.lookup key tables = d at part
  generalize List.lookup key tables' = d' at part
  cases part with
  | none => rfl
  | some part =>
    cases part with
    | same | table => rfl
    | array itemwise => cases itemwise <;> rfl

private theorem ordinary_reordered (ordinary : Ordinary tables) : Ordinary tables' := by
  intro sec
  have part := reordered.lookup sec.name
  have plain := ordinary sec
  generalize List.lookup sec.name tables = d at part plain
  generalize List.lookup sec.name tables' = d' at part
  cases part with
  | none => trivial
  | some part =>
    cases part with
    | same => exact plain
    | @table fields fields' fieldwise =>
      have value := fieldwise.lookup Setting.valueKey
      rw [show fields.lookup Setting.valueKey = none from plain] at value
      change fields'.lookup Setting.valueKey = none
      generalize List.lookup Setting.valueKey fields' = found at value
      cases value
      rfl
    | array itemwise =>
      cases itemwise with
      | nil => rfl
      | cons => cases plain

private theorem valueIn?_reordered (source : Setting.Source) (sec key : String) :
    Setting.Matches ((valueIn? tables sec key).bind (Setting.ofToml? source))
      ((valueIn? tables' sec key).bind (Setting.ofToml? source)) := by
  unfold valueIn?
  have part := reordered.lookup sec
  generalize List.lookup sec tables = d at part
  generalize List.lookup sec tables' = d' at part
  cases part with
  | none => exact .refl _
  | some part =>
    cases part with
    | same | array => exact .refl _
    | table fieldwise => exact Setting.lookup_reordered fieldwise key

end

private theorem Leaf.follows_matches {sec : Section} (ℓ : Leaf sec α) {s t : Option Setting}
    (same : Setting.Matches s t) {a : α} (follows : ℓ.Follows s a) : ℓ.Follows t a := by
  cases s with
  | none =>
    have none : t = none := Option.isNone_iff_eq_none.mp (Option.isSome_eq_false_iff.mp same.isSome.symm)
    exact none ▸ follows
  | some s =>
    obtain ⟨source, x, rfl⟩ := ℓ.ofScalar.scalar follows
    exact ((same.scalar source x).mp rfl) ▸ follows

/-! ### Variables of leaves -/

section

open Setting.Variable (lowered nameFor Joined path? path?_nameFor)

namespace Leaf

variable {sec : Section} (ℓ : Leaf sec α)

private theorem joined : Joined sec.name.toList ℓ.key.toList := by
  cases ℓ <;> exact ⟨⟨by decide, by decide, by decide⟩, ⟨by decide, by decide, by decide⟩, rfl, rfl⟩

/-- The text of the variable of a leaf, in whatever case its name is written. -/
def assigned? (vars : List (String × String)) : Option String :=
  (vars.find? fun x => lowered x.1 == nameFor sec.name.toList ℓ.key.toList).map Prod.snd

private theorem assigned?_eq {vars : List (String × String)} (orderly : Orderly vars) :
    ℓ.assigned? vars = textAt? vars [sec.name, ℓ.key] := by
  have same : ∀ x ∈ vars, (lowered x.1 == nameFor sec.name.toList ℓ.key.toList) =
      (path? x.1 == some [sec.name, ℓ.key]) := by
    intro x member
    rw [Bool.eq_iff_iff, beq_iff_eq, beq_iff_eq]
    constructor
    · intro named
      have ends : sec.name.toList.getLast? ≠ some '_' := by cases sec <;> decide
      rw [path?_nameFor ℓ.joined ends named, String.ofList_toList, String.ofList_toList]
    · intro sets
      obtain ⟨a, b, two, named⟩ := orderly.path_cases member sets
      cases two
      exact named
  rw [assigned?, textAt?, ← List.head?_filter, List.filter_congr same, List.head?_filter]

/-- What decides a leaf: its variable, or else the file, or else the default. -/
def Decided (file : Path) (tables : List (String × Toml)) (vars : List (String × String)) (a : α) : Prop :=
  match ℓ.assigned? vars, valueIn? tables sec.name ℓ.key with
  | some text, _ => ∃ s, Setting.Variable.read? text = some s ∧ ℓ.Reads s a
  | none, some d => ∃ s, Setting.ofToml? (.file file) d = some s ∧ ℓ.Reads s a
  | none, none => a = ℓ.value {}

private theorem decided_of_follows {file : Path} {tables : List (String × Toml)}
    {vars : List (String × String)}
    (orderly : Orderly vars) (loadable : Loadable file tables vars) {a : α}
    (follows : ℓ.Follows (ℓ.given? file tables vars) a) : ℓ.Decided file tables vars a := by
  unfold Decided
  unfold given? valueAt? at follows
  rw [← ℓ.assigned?_eq orderly] at follows
  cases set : ℓ.assigned? vars with
  | some text =>
    obtain ⟨v, read⟩ := Option.isSome_iff_exists.mp
      (loadable.readable [sec.name, ℓ.key] text ((ℓ.assigned?_eq orderly).symm.trans set))
    rw [set, Option.bind_some, read] at follows
    exact ⟨v, read, follows⟩
  | none =>
    rw [set] at follows
    cases found : valueIn? tables sec.name ℓ.key with
    | none =>
      rw [found] at follows
      exact follows
    | some d =>
      obtain ⟨v, made⟩ := taken_valueIn loadable.taken found
      rw [found] at follows
      change ℓ.Follows (Setting.ofToml? (.file file) d) a at follows
      rw [made] at follows
      exact ⟨v, made, follows⟩

/-- The same is given for a leaf, whatever else is. -/
structure SameGiven (tables tables' : List (String × Toml)) (vars vars' : List (String × String)) : Prop where
  text : ℓ.assigned? vars = ℓ.assigned? vars'
  value : valueIn? tables sec.name ℓ.key = valueIn? tables' sec.name ℓ.key

private theorem SameGiven.given?_eq (file : Path) {tables tables' : List (String × Toml)}
    {vars vars' : List (String × String)} (orderly : Orderly vars) (orderly' : Orderly vars')
    (same : ℓ.SameGiven tables tables' vars vars') :
    ℓ.given? file tables vars = ℓ.given? file tables' vars' := by
  unfold given? valueAt?
  rw [← ℓ.assigned?_eq orderly, ← ℓ.assigned?_eq orderly', same.text, same.value]

private theorem Decided.unique {file : Path} {tables tables' : List (String × Toml)}
    {vars vars' : List (String × String)} (same : ℓ.SameGiven tables tables' vars vars') {a b : α}
    (decided : ℓ.Decided file tables vars a) (decided' : ℓ.Decided file tables' vars' b) : a = b := by
  unfold Decided at decided decided'
  rw [← same.text, ← same.value] at decided'
  cases set : ℓ.assigned? vars with
  | some text =>
    rw [set] at decided decided'
    obtain ⟨v, read, reads⟩ := decided
    obtain ⟨w, read', reads'⟩ := decided'
    obtain rfl := Option.some.inj (read.symm.trans read')
    exact Except.ok.inj (reads.symm.trans reads')
  | none =>
    rw [set] at decided decided'
    cases found : valueIn? tables sec.name ℓ.key with
    | none =>
      rw [found] at decided decided'
      exact decided.trans decided'.symm
    | some d =>
      rw [found] at decided decided'
      obtain ⟨v, made, reads⟩ := decided
      obtain ⟨w, made', reads'⟩ := decided'
      obtain rfl := Option.some.inj (made.symm.trans made')
      exact Except.ok.inj (reads.symm.trans reads')

end Leaf

end

/-! ### Main statement -/

section

open Toml (FieldsReordered)
open Setting.Variable (lowered path?_congr)

variable {file : Path} {tables tables' : List (String × Toml)} {vars vars' : List (String × String)}

def folded (x : String × String) : List Char × String :=
  (lowered x.1, x.2)

private theorem textAt?_folded (orderly : Orderly vars) (orderly' : Orderly vars')
    (same : ∀ p, p ∈ vars.map folded ↔ p ∈ vars'.map folded) (path : List String) :
    textAt? vars path = textAt? vars' path := by
  have half {vars vars' : List (String × String)} (orderly : Orderly vars) (orderly' : Orderly vars')
      (same : ∀ p, p ∈ vars.map folded → p ∈ vars'.map folded) {text : String}
      (found : textAt? vars path = some text) : textAt? vars' path = some text := by
    obtain ⟨x, member, sets, rfl⟩ := orderly.textAt?_eq_some_iff.mp found
    obtain ⟨y, member', eq⟩ := List.mem_map.mp (same _ (List.mem_map_of_mem member))
    obtain ⟨name, text⟩ := Prod.mk.inj eq
    exact orderly'.textAt?_eq_some_iff.mpr ⟨y, member', (path?_congr name).trans sets, text⟩
  refine Option.ext fun text => ⟨half orderly orderly' fun p => (same p).mp, ?_⟩
  exact half orderly' orderly fun p => (same p).mpr

private theorem Loadable.rearranged (loadable : Loadable file tables vars)
    (texts : ∀ path, textAt? vars path = textAt? vars' path) (reordered : FieldsReordered tables tables') :
    Loadable file tables' vars' ∧ ∀ {sec α} (ℓ : Leaf sec α),
      Setting.Matches (ℓ.given? file tables vars) (ℓ.given? file tables' vars') := by
  have values : valueAt? vars = valueAt? vars' := by
    funext sec key
    rw [valueAt?, valueAt?, texts]
  refine ⟨⟨?_, ?_, ?_⟩, fun {sec _} ℓ => ?_⟩
  · exact fun path text found => loadable.readable path text ((texts path).trans found)
  · rw [← Setting.ofFields?_reordered reordered]
    exact loadable.taken
  · intro sec
    rw [← values, ← isOpen_reordered reordered]
    exact loadable.sectional sec
  · unfold Leaf.given?
    rw [← values]
    cases valueAt? vars sec.name ℓ.key with
    | some v => exact .refl _
    | none => exact valueIn?_reordered reordered _ _ _

/-- **Each leaf comes from the uppermost layer that has it.** Where variables that join a section and a key
have names that differ in more than their case, and a configuration is loaded, its file is missing or has
tables. Unless a section of the file is a row of values or stands for a value under a key of its own, each
leaf is what its variable says, or else what the file has under its key, or else its default. From a file
and variables that differ in order and case only the same configuration is loaded; a missing file and an
empty one have the same tables, which are none. Where the same is given for every leaf, and all that is
given can be read, the same configuration is loaded, whatever is given for keys that no leaf has. And
wherever the same is given for a leaf it has the same value, whatever is given for other leaves. -/
theorem each_leaf_from_its_uppermost_layer {fs : FileSystem φ F} {s : φ} {c : Configuration}
    (orderly : Orderly vars) (loaded : (load fs file vars s).answer = .ok c) :
    ∃ tables, Contains fs file s tables ∧ (Ordinary tables →
      (∀ {sec α} (ℓ : Leaf sec α), ℓ.Decided file tables vars (ℓ.value c)) ∧
      ∀ {ψ G : Type} (gs : FileSystem ψ G) (t : ψ) (tables' : List (String × Toml))
        (vars' : List (String × String)), Contains gs file t tables' → Orderly vars' →
        ((∀ p, p ∈ vars.map folded ↔ p ∈ vars'.map folded) → FieldsReordered tables tables' →
          (load gs file vars' t).answer = .ok c) ∧
        (Ordinary tables' → Loadable file tables' vars' →
          (∀ {sec α} (ℓ : Leaf sec α), ℓ.SameGiven tables tables' vars vars') →
          (load gs file vars' t).answer = .ok c) ∧
        ∀ d, Ordinary tables' → (load gs file vars' t).answer = .ok d →
          (∀ {sec α} (ℓ : Leaf sec α), ℓ.SameGiven tables tables' vars vars' → ℓ.value c = ℓ.value d) ∧
          ((∀ {sec α} (ℓ : Leaf sec α), ℓ.SameGiven tables tables' vars vars') → c = d)) := by
  obtain ⟨tables, contains⟩ := contains_of_load loaded
  refine ⟨tables, contains, fun ordinary => ?_⟩
  obtain ⟨loadable, follows⟩ := (load_ok_iff contains orderly ordinary).mp loaded
  refine ⟨fun ℓ => ℓ.decided_of_follows orderly loadable (follows ℓ), ?_⟩
  intro ψ G gs t tables' vars' contains' orderly'
  refine ⟨?_, ?_, ?_⟩
  · intro same reordered
    obtain ⟨loadable', given⟩ := loadable.rearranged (textAt?_folded orderly orderly' same) reordered
    refine (load_ok_iff contains' orderly' (ordinary_reordered reordered ordinary)).mpr ⟨loadable', ?_⟩
    exact fun ℓ => ℓ.follows_matches (given ℓ) (follows ℓ)
  · intro ordinary' loadable' same
    refine (load_ok_iff contains' orderly' ordinary').mpr ⟨loadable', fun ℓ => ?_⟩
    rw [← (same ℓ).given?_eq ℓ file orderly orderly']
    exact follows ℓ
  · intro d ordinary' loaded'
    obtain ⟨loadable', follows'⟩ := (load_ok_iff contains' orderly' ordinary').mp loaded'
    have each {sec : Section} {α : Type} (ℓ : Leaf sec α) (same : ℓ.SameGiven tables tables' vars vars') :
        ℓ.value c = ℓ.value d :=
      Leaf.Decided.unique ℓ same (ℓ.decided_of_follows orderly loadable (follows ℓ))
        (ℓ.decided_of_follows orderly' loadable' (follows' ℓ))
    exact ⟨fun ℓ => each ℓ, fun same => ext_leaves fun ℓ => each ℓ (same ℓ)⟩

/-- Two sections with a line for each of their leaves, in this order. -/
def twoSections (first second : List Char) : Transcript :=
  answering (String.ofList (Toml.sectionsText [first, second]))

private theorem contains_twoSections {w v : List Char} {s t : Toml.Section} (first : Toml.IsSection w s)
    (second : Toml.IsSection v t) (titles : s.1 ≠ t.1) (keys : (s.2.map Prod.fst).Nodup)
    (keys' : (t.2.map Prod.fst).Nodup) : Contains Transcript.fileSystem defaultFile (twoSections w v)
      [(s.1, .table s.2), (t.1, .table t.2)] := by
  refine .stored ⟨rfl, rfl⟩ (Text.ofBytes?_bytesOf _) ?_
  refine Toml.ofText?_sectionsText (.cons first (.cons second .nil)) (by simpa using titles) ?_
  intro u member
  rcases List.mem_cons.mp member with rfl | member
  · exact keys
  · exact List.mem_singleton.mp member ▸ keys'

private theorem Leaf.orderly_alone {sec : Section} (ℓ : Leaf sec α) {x : String × String}
    (named : lowered x.1 = Setting.Variable.nameFor sec.name.toList ℓ.key.toList)
    (alone : ∀ y ∈ vars, Setting.Variable.ownName? y.1 = none ∨ y = x) : Orderly vars where
  keyed y member := by
    refine (alone y member).imp_right fun same => ?_
    rw [same]
    exact ⟨_, _, ℓ.joined, named⟩
  apart y hy z hz keyed same := by
    obtain ⟨sec', key', joined, named'⟩ := keyed
    have own (name : String) (eq : lowered name = lowered y.1) : Setting.Variable.ownName? name ≠ none := by
      rw [Setting.Variable.ownName?_nameFor joined (eq.trans named')]
      exact Option.some_ne_none _
    rw [(alone y hy).resolve_left (own _ rfl), (alone z hz).resolve_left (own _ same.symm)]

/-- The sections of a file change places, and a variable is written in another case; or a variable is set
for a key that no leaf has; or another variable is set. -/
theorem rearranged_layers_load_alike :
    let adc : Analog := { backing := some .mock, device := 3 }
    let pwm : Pulse := { chip := 2 }
    let c : Configuration := { adc := { adc with device := 4 }, pwm }
    let d : Configuration := { adc, pwm := { chip := 9 } }
    let tables := [("pwm", .table pwm.table), ("adc", .table adc.table)]
    let vars := [("HOME", "/root"), ("ARTIK_ADC__DEVICE", "4")]
    let loads (vars : List (String × String)) (t : Transcript) :=
      (load Transcript.fileSystem defaultFile vars t).answer
    loads vars (twoSections pwm.toToml adc.toToml) = .ok c ∧
      Leaf.device.Decided defaultFile tables vars 4 ∧ Leaf.chip.Decided defaultFile tables vars 2 ∧
      loads [("artik_adc__Device", "4"), ("HOME", "/root")] (twoSections adc.toToml pwm.toToml) = .ok c ∧
      loads (("ARTIK_ADC__COLOUR", "red") :: vars) (twoSections pwm.toToml adc.toToml) = .ok c ∧
      loads [("ARTIK_PWM__CHIP", "9")] (twoSections pwm.toToml adc.toToml) = .ok d ∧
      Leaf.analogBacking.value c = Leaf.analogBacking.value d := by
  intro adc pwm c d tables vars loads
  let vars' := [("artik_adc__Device", "4"), ("HOME", "/root")]
  let other := [("ARTIK_PWM__CHIP", "9")]
  let more := ("ARTIK_ADC__COLOUR", "red") :: vars
  have ok {x : Except LoadFault Configuration} {c : Configuration} (some : x.toOption = some c) : x = .ok c := by
    cases x with
    | error e => cases some
    | ok c' => exact congrArg Except.ok (Option.some.inj some)
  have loaded : loads vars (twoSections pwm.toToml adc.toToml) = .ok c := ok (by decide +kernel)
  have loaded' : loads other (twoSections pwm.toToml adc.toToml) = .ok d := ok (by decide +kernel)
  have orderly : Orderly vars :=
    Leaf.device.orderly_alone (x := ("ARTIK_ADC__DEVICE", "4")) (by decide +kernel) (by decide +kernel)
  have orderly' : Orderly vars' :=
    Leaf.device.orderly_alone (x := ("artik_adc__Device", "4")) (by decide +kernel) (by decide +kernel)
  have orderlyOther : Orderly other :=
    Leaf.chip.orderly_alone (x := ("ARTIK_PWM__CHIP", "9")) (by decide +kernel) (by decide +kernel)
  have orderlyMore : Orderly more := orderly.cons
    ⟨"adc".toList, "colour".toList, ⟨⟨by decide, by decide, by decide⟩, ⟨by decide, by decide, by decide⟩,
      rfl, rfl⟩, by decide +kernel⟩ (by decide +kernel)
  have analog : Toml.IsSection adc.toToml ("adc", adc.table) := Analog.isSection (by decide)
  have pulse : Toml.IsSection pwm.toToml ("pwm", pwm.table) := pwm.isSection
  obtain ⟨found, contains, rest⟩ := each_leaf_from_its_uppermost_layer orderly loaded
  have known := contains_twoSections pulse analog (by decide) (by decide) (by decide)
  obtain rfl : found = tables := contains.unique known
  have ordinary : Ordinary tables := by
    intro sec
    cases sec with
    | application | platform | gpio => trivial
    | adc | pwm => rfl
  obtain ⟨decided, others⟩ := rest ordinary
  have turned := contains_twoSections analog pulse (by decide) (by decide) (by decide)
  have folds : (vars.map folded).Perm (vars'.map folded) := by decide +kernel
  have again := (others _ _ _ vars' turned orderly').1 (fun _ => folds.mem_iff) (.swap (by decide) _ _ [])
  have coloured : loads more (twoSections pwm.toToml adc.toToml) = .ok c := by
    refine (others _ _ _ more known orderlyMore).2.1 ordinary ⟨?_, rfl, ?_⟩ fun ℓ => ⟨?_, rfl⟩
    · obtain ⟨settings, made⟩ := Option.isSome_iff_exists.mp
        (show (Setting.ofEnvironment? more).isSome by decide +kernel)
      exact Setting.readable_of_ofEnvironment? orderlyMore made
    · intro sec
      cases sec <;> exact .inr rfl
    · cases ℓ <;> decide +kernel
  obtain ⟨same, -⟩ := (others _ _ _ other known orderlyOther).2.2 d ordinary loaded'
  exact ⟨loaded, decided .device, decided .chip, again, coloured, loaded',
    same Leaf.analogBacking ⟨by decide +kernel, rfl⟩⟩

/-- What the conditions are for. A row of values gives leaves that it has no keys for, and a variable of
one of them takes the others away. A key of its own makes a table stand for the value under it. Of two
variables whose names differ in a blank at the end, the order decides. -/
theorem rows_marks_and_blanks_mix_leaves :
    let loads (vars : List (String × String)) (text : String) :=
      (load Transcript.fileSystem defaultFile vars (answering text)).answer.toOption
    let row := "adc = [\"mock\", 3]\n"
    loads [] row = some { adc := { backing := some .mock, device := 3 } } ∧
      loads [("ARTIK_ADC__DEVICE", "4")] row = some { adc := { device := 4 } } ∧
      loads [] ("[adc]\n" ++ Setting.valueKey ++ " = \x7bdevice = 5\x7d\n") =
        some { adc := { device := 5 } } ∧
      loads [("ARTIK_ADC__DEVICE", "1"), ("ARTIK_ADC__DEVICE ", "2")] "" =
        some { adc := { device := 2 } } ∧
      loads [("ARTIK_ADC__DEVICE ", "2"), ("ARTIK_ADC__DEVICE", "1")] "" =
        some { adc := { device := 1 } } := by
  decide +kernel

end

end Configuration

end Peripherals

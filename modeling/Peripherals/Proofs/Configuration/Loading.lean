import Peripherals.CommandLine.Run
import Peripherals.CommandLine.Transcript
import Peripherals.Proofs.Action
import Peripherals.Proofs.Configuration.Rendering
import Peripherals.Proofs.Setting.Merging
import Peripherals.Proofs.Setting.Plain
import Peripherals.Proofs.Text.Utf8
/-!
A file with the text of a configuration is loaded as that configuration, when no variable of the
environment is ours. Main statement: `rendering_loses_nothing`.
-/

set_option autoImplicit false

namespace Peripherals

/-! ### The environment -/

namespace Setting

private theorem ofEnvironment?_foreign {vars : List (String × String)}
    (foreign : ∀ x ∈ vars, Variable.ownName? x.1 = none) :
    ofEnvironment? vars = some (.group .environment []) := by
  have none : ours vars = [] := by
    refine List.filterMap_eq_nil_iff.mpr fun x member => ?_
    simp [Variable.path?, foreign x (mem_of_mem_assign member)]
  simp [ofEnvironment?, none]

private theorem readRecord_source {α : Type} {form : Document.Form Placed Misplaced α} {title : String}
    (names : List String) {path : List String} {a b : Source} {given : List (String × Setting)} {x : α}
    (read : (⟨path, .group a given⟩ : Placed).readRecord title names form = .ok x) :
    (⟨path, .group b given⟩ : Placed).readRecord title names form = .ok x := by
  simp only [Placed.readRecord] at read
  split at read
  next ok => exact readRecord_group rfl _ _ (ok.trans (congrArg Except.ok (Except.ok.inj read)))
  next =>
    split at read <;> cases read

end Setting

namespace Configuration

/-! ### Layers -/

private theorem isPlain_document (c : Configuration) : Setting.isPlain c.document = true := by
  have application : Setting.isPlain (.table c.application.table) = true := rfl
  have board : Setting.isPlain (.table c.board.table) = true := by
    unfold Board.table
    cases c.board.model <;> rfl
  have analog : Setting.isPlain (.table c.adc.table) = true := by
    unfold Analog.table
    cases c.adc.backing <;> rfl
  have digital : Setting.isPlain (.table c.gpio.table) = true := by
    unfold Digital.table
    cases c.gpio.backing <;> rfl
  have pulse : Setting.isPlain (.table c.pwm.table) = true := by
    unfold Pulse.table
    cases c.pwm.backing <;> rfl
  have sectionwise : Setting.arePlain (c.sections.map fun s => (s.1, .table s.2)) = true := by
    simp only [sections, List.map, Setting.arePlain, application, board, analog, digital, pulse,
      Bool.and_self]
  rw [document, Setting.isPlain, sectionwise]
  rfl

private theorem ofLayers_document {c : Configuration} {source : Setting.Source} {settings : Setting}
    (made : Setting.ofDocument? source c.document = some settings) :
    ofLayers (some settings) (.group .environment []) = .ok c := by
  have plain := isPlain_document c
  rw [Setting.ofDocument?_isPlain source plain] at made
  have read : Configuration.read Setting.format ⟨[], settings⟩ = .ok c :=
    read_shown Setting.format_shows ⟨plain, source, made⟩
  have table := (Setting.ofToml?_table source plain).symm.trans made
  obtain ⟨given, -, rfl⟩ := Option.map_eq_some_iff.mp table
  have merged : Configuration.read Setting.format ⟨[], .group .environment given⟩ = .ok c :=
    Setting.readRecord_source fields read
  exact congrArg (Except.mapError LoadFault.misplaced) merged

/-! ### Files -/

section Files

variable {φ F : Type} (fs : FileSystem φ F)

/-- A regular file with these bytes stands at the end of a path. -/
structure Stored (file : Path) (bytes : List UInt8) (s : φ) : Prop where
  located : (fs.locate file s).answer = .ok .file
  content : (fs.readFile file (fs.locate file s).state).answer = .ok bytes

variable {fs} {file : Path} {s : φ}

private theorem fileSettings_rendered (file : Path) {c : Configuration} {text : String}
    (written : c.toToml? = some text) :
    ∃ settings, fileSettings file (Text.bytesOf text) = .ok settings ∧
      Setting.ofDocument? (.file file) c.document = some settings := by
  have plain := isPlain_document c
  obtain ⟨settings, made⟩ :=
    Option.isSome_iff_exists.mp (Setting.ofToml?_isPlain (.file file) plain)
  rw [← Setting.ofDocument?_isPlain _ plain] at made
  refine ⟨settings, ?_, made⟩
  simp [fileSettings, Text.ofBytes?_bytesOf, ofText?_toToml? written, made]

theorem readFileSettings_stored {bytes : List UInt8} (stored : Stored fs file bytes s) :
    (readFileSettings fs file s).answer = (fileSettings file bytes).map some := by
  simp [readFileSettings, FileSystem.isFile, Action.bind_apply, Action.map_apply, Action.mapError,
    Action.ofExcept, stored.located, stored.content, Except.mapError]

theorem load_ok_iff_layers {vars : List (String × String)} {c : Configuration} :
    (load fs file vars s).answer = .ok c ↔ ∃ environment layer,
      environmentSettings vars = .ok environment ∧ (readFileSettings fs file s).answer = .ok layer ∧
      ofLayers layer environment = .ok c := by
  cases made : environmentSettings vars with
  | error e => simp [load, Action.bind_apply, Action.ofExcept, made]
  | ok environment =>
    cases present : (readFileSettings fs file s).answer <;>
      simp [load, Action.bind_apply, Action.ofExcept, made, present]

private theorem load_rendered {c : Configuration} {text : String} (written : c.toToml? = some text)
    (stored : Stored fs file (Text.bytesOf text) s) {vars : List (String × String)}
    (foreign : ∀ x ∈ vars, Setting.Variable.ownName? x.1 = none) :
    (load fs file vars s).answer = .ok c := by
  obtain ⟨settings, taken, made⟩ := fileSettings_rendered file written
  have present : (readFileSettings fs file s).answer = .ok (some settings) := by
    rw [readFileSettings_stored stored, taken]
    rfl
  have silent : environmentSettings vars = .ok (.group .environment []) := by
    simp [environmentSettings, Setting.ofEnvironment?_foreign foreign]
  exact load_ok_iff_layers.mpr ⟨_, _, silent, present, ofLayers_document made⟩

end Files

/-! ### The command line -/

section CommandLine

open CommandLine

variable {φ F : Type} {fs : FileSystem φ F} {i : Invocation} {vars : List (String × String)} {s : φ}
  {c : Configuration}

private theorem configure_of_load (loaded : (load fs i.file vars s).answer = .ok c)
    (level : i.logLevel = none)
    (valid : c.validate = .ok ()) : (configure fs i vars s).answer = .ok c := by
  simp [configure, Action.bind_apply, Action.map_apply, Action.mapError, Action.ofExcept, loaded, level,
    valid, Except.mapError, Except.map]

private theorem valid_of_configure
    (obeyed : (configure fs i vars s).answer = .ok c) : c.validate = .ok () := by
  obtain ⟨d, -, checked⟩ := Action.answer_of_bind_ok obeyed
  obtain ⟨_, valid, same⟩ := Action.answer_of_bind_ok checked
  obtain rfl := Except.ok.inj same
  exact Action.answer_of_mapError_ok (x := Action.ofExcept _) (s := s) valid

private theorem run_config {args : List String} (console : Console φ)
    (read : Invocation.read args = .ok i)
    (command : i.command = .config) (obeyed : (configure fs i vars s).answer = .ok c)
    {lets : Logging.Filter} (starts : console.logger.startFor vars c = .ok lets) {text : String}
    (written : c.toToml? = some text) :
    run fs console args vars s = (⟨0, ""⟩, console.print text (configure fs i vars s).state) := by
  simp [run, read, Invocation.run, startLogging, Action.bind_apply, Action.ofExcept, obeyed, starts,
    command, written, Action.modify, Except.mapError]

end CommandLine

/-! ### Main statement -/

/-- **Rendering loses nothing.** A configuration, whatever texts it holds, has a text unless its control
request is too large for an integer of TOML. The text is read as the same configuration. A file with the
text is loaded as the same configuration where no variable of the environment is ours. So the program
itself shows the text of the configuration that it obeys, once it logs as the configuration asks, and it
obeys the same one when the text is its file. -/
theorem rendering_loses_nothing (c : Configuration) :
    (c.toToml?.isSome = true ↔ c.adc.triggerRequest.toNat ≤ Nat.pow 2 63 - 1) ∧
    ∀ text, c.toToml? = some text →
      ofToml? text = some c ∧
      (∀ {φ F : Type} (fs : FileSystem φ F) (file : Path) (vars : List (String × String)) (s : φ),
        (∀ x ∈ vars, Setting.Variable.ownName? x.1 = none) →
        Stored fs file (Text.bytesOf text) s → (load fs file vars s).answer = .ok c) ∧
      ∀ {φ F : Type} (fs : FileSystem φ F) (i : CommandLine.Invocation)
        (vars : List (String × String)) (s : φ), (CommandLine.configure fs i vars s).answer = .ok c →
        (∀ (console : Console φ) (args : List String) (lets : Logging.Filter),
          CommandLine.Invocation.read args = .ok i → i.command = .config →
          console.logger.startFor vars c = .ok lets → CommandLine.run fs console args vars s =
            (⟨0, ""⟩, console.print text (CommandLine.configure fs i vars s).state)) ∧
        ∀ {ψ G : Type} (gs : FileSystem ψ G) (j : CommandLine.Invocation)
          (vars : List (String × String)) (t : ψ), j.logLevel = none →
          (∀ x ∈ vars, Setting.Variable.ownName? x.1 = none) →
          Stored gs j.file (Text.bytesOf text) t →
          (CommandLine.configure gs j vars t).answer = .ok c := by
  refine ⟨isSome_toToml? c, fun text written => ⟨ofToml?_toToml? written, ?_, ?_⟩⟩
  · intro φ F fs file vars s foreign stored
    exact load_rendered written stored foreign
  · intro φ F fs i vars s obeyed
    refine ⟨fun console args lets read command starts =>
      run_config console read command obeyed starts written, ?_⟩
    intro ψ G gs j vars t level foreign stored
    exact configure_of_load (load_rendered written stored foreign) level (valid_of_configure obeyed)

def difficult : Configuration where
  application := { name := "it's \"\\\"\n\x01", logFormat := "JSON" }
  board := { model := some "''' and \"\"\"", sysfsRoot := "C:\\sys", devRoot := "" }
  adc := { backing := some .tizenrt, device := 2 }
  pwm := { backing := some .disabled }

/-- A system that answers with a text when it is asked for a file. -/
def answering (text : String) : Transcript :=
  { replies := [.kind .file, .bytes (Text.bytesOf text)] }

theorem difficult_survives :
    difficult.adc.triggerRequest.toNat ≤ Nat.pow 2 63 - 1 ∧
    ∃ text, difficult.toToml? = some text ∧ ofToml? text = some difficult ∧
      (load Transcript.fileSystem defaultFile [("HOME", "/root")] (answering text)).answer =
        .ok difficult ∧
      (CommandLine.run Transcript.fileSystem Transcript.console ["config"] [] (answering text)).1 =
        ⟨0, ""⟩ ∧
      (CommandLine.configure Transcript.fileSystem { command := .modules } [("HOME", "/root")]
        (answering text)).answer = .ok difficult := by
  obtain ⟨writable, survives⟩ := rendering_loses_nothing difficult
  have small : difficult.adc.triggerRequest.toNat ≤ Nat.pow 2 63 - 1 := by decide
  obtain ⟨text, written⟩ := Option.isSome_iff_exists.mp (writable.mpr small)
  obtain ⟨read, loads, obeys⟩ := survives text written
  have foreign : ∀ x ∈ [("HOME", "/root")], Setting.Variable.ownName? x.1 = none := by decide +kernel
  have stored : Stored Transcript.fileSystem defaultFile (Text.bytesOf text) (answering text) :=
    ⟨rfl, rfl⟩
  have obeyed : (CommandLine.configure Transcript.fileSystem { command := .config } []
      (answering text)).answer = .ok difficult :=
    configure_of_load (loads _ _ [] _ (by simp) stored) rfl rfl
  obtain ⟨shows, reproduces⟩ := obeys _ _ _ _ obeyed
  refine ⟨small, text, written, read, loads _ _ _ _ foreign stored, ?_,
    reproduces _ _ _ _ rfl foreign stored⟩
  rw [shows Transcript.console ["config"] _ rfl rfl rfl]

end Configuration

end Peripherals

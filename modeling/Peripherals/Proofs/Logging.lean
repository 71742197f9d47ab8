import Peripherals.Logging
import Peripherals.Proofs.Text.Occurrences
/-!
Starting to log. Main statement: where a logger is turned down only because there is one already, logging
starts just if its settings follow from the configuration.
-/

set_option autoImplicit false

namespace Peripherals.Logging

private theorem named?_isSome {α : Type} (all : List α) (name : α → String) (word : String) :
    (named? all name word).isSome = Configuration.isNamed (all.map name) word := by
  rw [named?, List.isSome_find?, Configuration.isNamed, List.any_map]
  rfl

private theorem readLevel_ok_iff {word : String} :
    (∃ l, readLevel word = .ok l) ↔ Configuration.isNamed Configuration.levelNames word = true := by
  have names : Level.all.map Level.name = Configuration.levelNames := rfl
  rw [← names, ← named?_isSome, readLevel]
  cases named? Level.all Level.name word <;> simp

private theorem readLayout_ok_iff {word : String} :
    (∃ l, readLayout word = .ok l) ↔ Configuration.isNamed Configuration.formatNames word = true := by
  have names : Layout.all.map Layout.name = Configuration.formatNames := rfl
  rw [← names, ← named?_isSome, readLayout]
  cases named? Layout.all Layout.name word <;> simp

theorem ofConfiguration_ok_iff {c : Configuration} : (∃ s, Settings.ofConfiguration c = .ok s) ↔
    Configuration.isNamed Configuration.levelNames c.application.logLevel = true ∧
      Configuration.isNamed Configuration.formatNames c.application.logFormat = true := by
  rw [← readLevel_ok_iff, ← readLayout_ok_iff, Settings.ofConfiguration]
  cases readLevel c.application.logLevel with
  | error e => simp [bind, Except.bind]
  | ok l => cases readLayout c.application.logFormat <;> simp [bind, Except.bind, pure, Except.pure]

private theorem tolerate_error_iff {placed : Except String Unit} {message : String} :
    tolerate placed = .error message ↔ ∃ e, placed = .error e ∧
      (∀ phrase ∈ placedPhrases, ¬ phrase.toList <:+: e.toList) ∧
      "Failed to initialize tracing: " ++ e = message := by
  cases placed with
  | ok u => simp [tolerate]
  | error e =>
    simp only [tolerate, List.any_eq_true, Text.occursIn_iff, Except.error.injEq, exists_eq_left']
    by_cases told : ∃ phrase ∈ placedPhrases, phrase.toList <:+: e.toList
    · obtain ⟨phrase, member, occurs⟩ := told
      rw [if_pos ⟨phrase, member, occurs⟩]
      exact iff_of_false nofun fun untold => untold.1 phrase member occurs
    · have untold : ∀ phrase ∈ placedPhrases, ¬ phrase.toList <:+: e.toList :=
        fun phrase member occurs => told ⟨phrase, member, occurs⟩
      rw [if_neg told, Except.error.injEq, and_iff_right untold]

namespace Facility

variable {f : Facility} {vars : List (String × String)}

/-- Starting fails where a logger is turned down and nothing says that there is one already. -/
theorem start_error_iff {s : Settings} {message : String} : f.start vars s = .error message ↔
    ∃ e, (f.place s.layer (f.filterFor vars s.level)).1 = .error e ∧
      (∀ phrase ∈ placedPhrases, ¬ phrase.toList <:+: e.toList) ∧
      "Failed to initialize tracing: " ++ e = message := by
  rw [← tolerate_error_iff, start]
  cases tolerate (f.place s.layer (f.filterFor vars s.level)).1 <;>
    simp [bind, Except.bind, pure, Except.pure]

/-- What is said where the place of a logger is taken: by the place itself, or by that of an older
service beside it. -/
def refusals : List String :=
  ["a global default trace dispatcher has already been set",
    "attempted to set a logger after the logging system was already initialized"]

/-- A logger is turned down only because there is one already. -/
structure Orderly (f : Facility) : Prop where
  refusal : ∀ layer filter e, (f.place layer filter).1 = .error e → e ∈ refusals

private theorem refusals_phrased :
    ∀ e ∈ refusals, ∃ phrase ∈ placedPhrases, phrase.toList <:+: e.toList := by
  decide +kernel

theorem Orderly.startFor_ok_iff (orderly : f.Orderly) {c : Configuration} :
    (∃ lets, f.startFor vars c = .ok lets) ↔ ∃ s, Settings.ofConfiguration c = .ok s := by
  unfold startFor
  cases Settings.ofConfiguration c with
  | error e => simp [bind, Except.bind]
  | ok s =>
    refine iff_of_true ?_ ⟨s, rfl⟩
    change ∃ lets, f.start vars s = .ok lets
    cases started : f.start vars s with
    | ok lets => exact ⟨lets, rfl⟩
    | error message =>
      obtain ⟨e, refused, untold, -⟩ := start_error_iff.mp started
      obtain ⟨phrase, member, occurs⟩ := refusals_phrased e (orderly.refusal _ _ e refused)
      exact absurd occurs (untold phrase member)

theorem occupied_orderly : occupied.Orderly where
  refusal _ _ e refused := by
    obtain rfl := Except.error.inj refused
    exact List.mem_cons_self

end Facility

end Peripherals.Logging

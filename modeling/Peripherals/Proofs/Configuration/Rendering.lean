import Peripherals.Configuration.Written
import Peripherals.Proofs.Configuration.Sections
import Peripherals.Proofs.Toml.Sections
/-!
The text of a configuration is read back. Main statement: `ofToml?_toToml?`.
-/

set_option autoImplicit false

namespace Peripherals.Configuration

open Toml (IsEntry IsSection Writes)

/-! ### Lines -/

private theorem isEntry_text {k : String} (bare : Toml.isBareKey k = true) (s : String) :
    IsEntry (textLine k s) (k, .text s) :=
  ⟨bare, _, Toml.writes_text s, rfl⟩

private theorem isEntry_flag {k : String} (bare : Toml.isBareKey k = true) (b : Bool) :
    IsEntry (flagLine k b) (k, .flag b) :=
  ⟨bare, _, Toml.writes_flag b, rfl⟩

private theorem isEntry_number {k : String} (bare : Toml.isBareKey k = true) {n : Nat}
    (small : n < Nat.pow 2 63) : IsEntry (numberLine k n) (k, .int n) :=
  ⟨bare, _, Toml.writes_number small, rfl⟩

private theorem isEntry_optional {k : String} (bare : Toml.isBareKey k = true) (value : Option String)
    {ws : List (List Char)} {es : List (String × Toml)} (h : List.Forall₂ IsEntry ws es) :
    List.Forall₂ IsEntry (optionalLine k value ++ ws) (optionalField k value ++ es) := by
  cases value with
  | none => exact h
  | some s => exact .cons (isEntry_text bare s) h

/-! ### Sections -/

private theorem Application.isSection (s : Application) : IsSection s.toToml
    ("application", s.table) := by
  refine ⟨(by decide : Toml.isBareKey "application" = true), _, ?_, rfl⟩
  exact .cons (isEntry_text (by decide) _) <| .cons (isEntry_text (by decide) _) <|
    .cons (isEntry_text (by decide) _) <| .cons (isEntry_flag (by decide) _) <|
    .cons (isEntry_flag (by decide) _) <| .cons (isEntry_flag (by decide) _) .nil

private theorem Board.isSection (s : Board) : IsSection s.toToml ("platform", s.table) := by
  refine ⟨(by decide : Toml.isBareKey "platform" = true), _, isEntry_optional (by decide) _ ?_, rfl⟩
  exact .cons (isEntry_text (by decide) _) <| .cons (isEntry_text (by decide) _) <|
    .cons (isEntry_text (by decide) _) .nil

private theorem small_of_word32 (n : UInt32) : n.toNat < Nat.pow 2 63 :=
  Nat.lt_of_lt_of_le (UInt32.toNat_lt n) (by decide)

theorem Analog.isSection {s : Analog} (fits : s.triggerRequest.toNat < Nat.pow 2 63) :
    IsSection s.toToml ("adc", s.table) := by
  refine ⟨(by decide : Toml.isBareKey "adc" = true), _, isEntry_optional (by decide) _ ?_, rfl⟩
  exact .cons (isEntry_number (by decide) (small_of_word32 _)) <|
    .cons (isEntry_number (by decide) fits) .nil

private theorem Digital.isSection (s : Digital) : IsSection s.toToml ("gpio", s.table) := by
  refine ⟨(by decide : Toml.isBareKey "gpio" = true), _, ?_, rfl⟩
  simpa [Digital.table] using isEntry_optional (by decide) (s.backing.map (·.name)) .nil

theorem Pulse.isSection (s : Pulse) : IsSection s.toToml ("pwm", s.table) := by
  refine ⟨(by decide : Toml.isBareKey "pwm" = true), _, isEntry_optional (by decide) _ ?_, rfl⟩
  exact .cons (isEntry_number (by decide) (small_of_word32 _)) .nil

private theorem sections_keys (c : Configuration) : ∀ s ∈ c.sections, (s.2.map (·.1)).Nodup := by
  intro s member
  simp only [sections, List.mem_cons, List.not_mem_nil, or_false] at member
  rcases member with rfl | rfl | rfl | rfl | rfl
  · simp [Application.table]
  · cases eq : c.board.model <;> simp [Board.table, optionalField, eq]
  · cases eq : c.adc.backing <;> simp [Analog.table, optionalField, eq]
  · cases eq : c.gpio.backing <;> simp [Digital.table, optionalField, eq]
  · cases eq : c.pwm.backing <;> simp [Pulse.table, optionalField, eq]

/-! ### The text -/

theorem isSome_toToml? (c : Configuration) :
    c.toToml?.isSome = true ↔ c.adc.triggerRequest.toNat ≤ Nat.pow 2 63 - 1 := by
  rw [Nat.le_sub_one_iff_lt (by decide)]
  unfold toToml?
  split
  next fits => exact ⟨fun _ => fits, fun _ => rfl⟩
  next large => exact ⟨fun isSome => absurd isSome (by simp), fun fits => absurd fits large⟩

theorem ofText?_toToml? {c : Configuration} {text : String} (written : c.toToml? = some text) :
    Toml.ofText? text = some c.document := by
  unfold toToml? at written
  split at written
  next fits =>
    obtain rfl := Option.some.inj written
    have sectionwise : List.Forall₂ IsSection [c.application.toToml, c.board.toToml, c.adc.toToml,
        c.gpio.toToml, c.pwm.toToml] c.sections :=
      .cons c.application.isSection <| .cons c.board.isSection <| .cons (Analog.isSection fits) <|
        .cons c.gpio.isSection <| .cons c.pwm.isSection .nil
    exact Toml.ofText?_sectionsText sectionwise (by simp [sections]) c.sections_keys
  · cases written

/-- **What is written is read back as the same configuration.** -/
theorem ofToml?_toToml? {c : Configuration} {text : String} (written : c.toToml? = some text) :
    ofToml? text = some c := by
  have read := read_shown Toml.format_shows (c := c) rfl
  simp [ofToml?, ofText?_toToml? written, read, Except.toOption]

end Peripherals.Configuration

import Peripherals.Proofs.Files.Ports
/-!
The ports of lines. Main statement: only claims and closings of lines come near them.
-/

set_option autoImplicit false

namespace Peripherals.Gpio.Sysfs

open Peripherals.Ports (Writes)

variable {φ F α : Type} (g : Sysfs)

private theorem classDir_solid : g.classDir.Solid :=
  Path.solid_join _ "class/gpio" (rfl : _ = "class/gpi".toList ++ ['o']) (by decide)

def ports : Ports (Line F) where
  dir := g.classDir
  home := g.lineDir
  fault? := FileEvent.fault?
  fault?_looked _ _ := rfl
  fault?_wrote _ _ _ := rfl
  solid := g.classDir_solid
  home_below line := by
    have text := (Path.numbered_text "gpio" line).2
    exact ⟨'g', g.classDir_solid.below _ text, by decide, by decide⟩
  own key line := line.line = key
  marked line := line.exported

variable (fs : FileSystem φ F)

theorem exportLine_writes (line : UInt32) : Writes (exportLine fs.watched g line)
    (g.ports (F := F)).outlet ((g.ports (F := F)).exporting line) := by
  refine Logs.bind (Logs.store fs _ _) (fun log e failed => failed) fun log u written => ?_
  refine .of_still (fun _ => rfl) fun _ => ?_
  rw [List.append_nil]
  exact written

private theorem configure_steps (c : Config) :
    (g.ports (F := F)).Steps (configure fs.watched g c) := by
  have outside (name : String) : ¬ (g.ports (F := F)).IsPort ((g.lineDir c.line).join name) :=
    (g.ports (F := F)).home_join c.line name
  have opens {x : Action Fault (φ × FileLog) (Attribute F)}
      (h : Logs x fun log answer => ∃ cause?,
        log = [.opened ((g.lineDir c.line).join "value") cause?] ∧
          failure? answer = cause?.map (Fault.ofIo ((g.lineDir c.line).join "value"))) :
      (g.ports (F := F)).Steps x := by
    refine h.weaken fun log answer opened => ?_
    obtain ⟨cause?, rfl, fails⟩ := opened
    refine ⟨Ports.traffic_singleton (outside "value"), ?_⟩
    rw [fails]
    cases cause? <;> rfl
  rw [configure_eq]
  refine (Ports.Steps.store fs (outside _) _).bind fun _ => Ports.Steps.bind ?_ fun _ => ?_
  · split
    · exact Ports.Steps.store fs (outside _) _
    · exact Ports.Steps.pure _ ()
  · unfold openValue
    cases c.direction with
    | input => exact opens (Logs.open_attribute fs _).1
    | output => exact opens (Logs.open_attribute fs _).2

theorem claim_claims (c : Config) : (g.ports (F := F)).Claims c.line (claim fs.watched g c) := by
  rw [claim_eq]
  exact Ports.claims_of_steps (p := g.ports)
    (fun exported value => (⟨c.line, exported, value⟩ : Line F))
    (fun _ _ => ⟨rfl, rfl⟩) _ (Logs.isPresent fs _)
    (g.exportLine_writes fs c.line) (Logs.store fs _ _) (g.configure_steps fs c)

private theorem value_passes {x : Action Fault ((φ × FileLog) × Attribute F) α}
    (still : ∀ q, (x q).state.1.2 = q.1.2) : g.ports.Passes (Action.zoom valueLens x) := by
  intro key q own
  refine ⟨[], ?_, rfl, own, rfl⟩
  rw [List.append_nil]
  exact still _

theorem read_passes : g.ports.Passes (driver fs.watched g).read := by
  refine g.value_passes fun q => ?_
  have quiet := Logs.read_still fs q
  rw [Action.bind_apply]
  split
  · exact quiet
  · exact quiet

theorem write_passes (level : Bool) : g.ports.Passes ((driver fs.watched g).write level) :=
  g.value_passes fun q => Logs.write_still fs _ q

theorem close_closes : g.ports.Closes (close fs.watched g) := by
  rw [close_eq]
  refine Ports.closes_of_writes (p := g.ports) (fun line => { line with exported := false })
    (fun line => ⟨rfl, fun _ own => own⟩) _ ?_
  rintro _ line rfl
  exact Logs.store fs _ _

end Peripherals.Gpio.Sysfs

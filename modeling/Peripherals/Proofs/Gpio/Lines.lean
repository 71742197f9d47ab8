import Peripherals.Gpio.Simulated
import Peripherals.Proofs.Desk.Lasting
/-!
Simulated lines and a desk on them. Main statements: what each call to the lines does to their levels,
and that a live handle reads and drives the line it was given out for.
-/

set_option autoImplicit false

namespace Peripherals.Gpio.Lines

/-! ### Levels -/

theorem level_drive (l : Lines) (line : UInt32) (level : Bool) (other : UInt32) :
    (l.drive line level).level other = if other = line then level else l.level other := by
  change ((l.levels.put line level).get? other).getD false = _
  rw [Assoc.get?_put]
  split <;> rfl

private theorem level_insertOpen (l : Lines) (line other : UInt32) :
    (l.insertOpen line).level other = l.level other := by
  unfold insertOpen
  split <;> rfl

/-- The level to which a line is set when it is opened. -/
def preparedFor (l : Lines) (c : Config) : Lines :=
  if c.direction = .output then l.drive c.line c.initial else l

private theorem level_preparedFor (l : Lines) (c : Config) (line : UInt32) :
    (l.preparedFor c).level line =
    if c.direction = .output ∧ line = c.line then c.initial else l.level line := by
  unfold preparedFor
  by_cases output : c.direction = .output
  · simp only [output, if_true, level_drive, true_and]
  · simp only [output, if_false, false_and]

/-! ### Calls -/

theorem claim_apply (c : Config) (l : Lines) :
    driver.claim c l = ⟨.ok c.line, [], (l.preparedFor c).insertOpen c.line⟩ := by
  unfold preparedFor
  by_cases output : c.direction = .output
  · simp only [driver, output, if_true, Action.bind_apply]
    rfl
  · simp only [driver, output, if_false, Action.bind_apply]
    rfl

def inputLine (c : Config) : Fault :=
  .invalidArgument ("gpio " ++ Text.number c.line.toNat ++ " is an input line")

theorem driveLine_apply (l : Lines) (lease : Lease Config UInt32) (level : Bool) :
    driver.driveLine level (l, lease) = if lease.settings.direction = .output then
        ⟨.ok (), [], (l.drive lease.channel level, lease)⟩
      else ⟨.error (inputLine lease.settings), [], (l, lease)⟩ := by
  by_cases output : lease.settings.direction = .output
  · simp only [Driver.driveLine, Action.bind_apply, Action.get_apply, if_pos output]
    rfl
  · simp only [Driver.driveLine, Action.bind_apply, Action.get_apply, if_neg output, Action.fail_apply]
    rfl

private theorem windUp_apply (l : Lines) (lease : Lease Config UInt32) :
    driver.device.windUp (l, lease) = ⟨.ok (), [], (l.eraseOpen lease.channel, lease)⟩ := rfl

theorem dismiss_device (h : Handle) (key : UInt32) (l : Lines) (lease : Lease Config UInt32) :
    (driver.device.dismiss h key (l, lease)).state.1 = l.eraseOpen lease.channel := by
  rw [driver.device.dismiss_state]
  rfl

theorem spares (lease : Lease Config UInt32) (k : Command) :
    driver.device.Spares (· = lease) (driver.errand k) where
  works h work use l kept same := by
    cases k with
    | request c | release h | name h | direction h | line h => cases use
    | level h =>
      cases use
      rw [Action.map_apply]
      exact same
    | drive h on =>
      cases use
      rw [Action.map_apply, driveLine_apply]
      split <;> exact same
  closes l kept same := by
    rw [windUp_apply]
    exact same

/-- What happens at a desk on simulated lines: a command, or a line gets its level from outside. -/
def happen : Occurrence Command (UInt32 × Bool) →
    Action Fault (Desk Lines Config UInt32) (Option Answer) :=
  Occurrence.perform driver.perform fun (line, level) l => l.drive line level

/-! ### Commands -/

variable {d : Desk Lines Config UInt32} {h : Handle} {key : UInt32} {lease : Lease Config UInt32}

theorem course (k : Command) (d : Desk Lines Config UInt32) :
    Course driver.device .granted .done d (driver.errand k) (driver.perform k d).answer
      (driver.perform k d).state := by
  rw [driver.perform_eq]
  exact (driver.errand k).course driver.device .granted .done d

theorem perform_level (live : d.leases.slots.get? h = some (key, lease)) :
    (driver.perform (.level h) d).answer = .ok (.level (d.device.level lease.channel)) ∧
      (driver.perform (.level h) d).state = d.after h (d.device, lease) := by
  have reads := Desk.map_withLease_live live (Action.zoom Lease.channelLens driver.read) Answer.level
  exact ⟨congrArg Outcome.answer reads, congrArg Outcome.state reads⟩

theorem perform_drive (live : d.leases.slots.get? h = some (key, lease)) (level : Bool) :
    (lease.settings.direction = .output → (driver.perform (.drive h level) d).answer = .ok .done ∧
      (driver.perform (.drive h level) d).state = d.after h (d.device.drive lease.channel level, lease)) ∧
    (lease.settings.direction ≠ .output →
      (driver.perform (.drive h level) d).answer = .error (inputLine lease.settings) ∧
        (driver.perform (.drive h level) d).state = d.after h (d.device, lease)) := by
  have drives : driver.perform (.drive h level) d = _ :=
    Desk.map_withLease_live live (driver.driveLine level) fun _ => Answer.done
  rw [drives, driveLine_apply]
  refine ⟨fun output => ?_, fun input => ?_⟩
  · rw [if_pos output]
    exact ⟨rfl, rfl⟩
  · rw [if_neg input]
    exact ⟨rfl, rfl⟩

theorem request_level (c : Config) (d : Desk Lines Config UInt32) (line : UInt32) :
    ((driver.perform (.request c) d).answer = .ok (.granted ⟨d.counter⟩) ∧
      (driver.perform (.request c) d).state.device.level line =
        if c.direction = .output ∧ line = c.line then c.initial else d.device.level line) ∨
    ((∃ f, (driver.perform (.request c) d).answer = .error f) ∧
      (driver.perform (.request c) d).state.device.level line = d.device.level line) := by
  have course := course (.request c) d
  generalize (driver.perform (.request c) d).answer = answer at course ⊢
  generalize (driver.perform (.request c) d).state = d' at course ⊢
  cases course with
  | taken busy => exact .inr ⟨⟨_, rfl⟩, rfl⟩
  | declined free claim =>
    rw [show driver.device.claim c d.device = _ from claim_apply c d.device] at claim
    cases claim
  | granted free claim =>
    refine .inl ⟨rfl, ?_⟩
    change (driver.claim c d.device).state.level line = _
    rw [claim_apply, level_insertOpen, level_preparedFor]
  | unknown about dead => cases about

/-- The levels change by requests and by driving lines, and by no other command. -/
theorem other_level {k : Command} (other : ∀ c, k ≠ .request c) (other' : ∀ h level, k ≠ .drive h level)
    (d : Desk Lines Config UInt32) (line : UInt32) :
    (driver.perform k d).state.device.level line = d.device.level line := by
  have course := course k d
  generalize (driver.perform k d).answer = answer at course
  generalize (driver.perform k d).state = d' at course ⊢
  cases k with
  | request c => exact absurd rfl (other c)
  | drive h level => exact absurd rfl (other' h level)
  | release h => cases course <;> rfl
  | level h => cases course <;> rfl
  | name h | direction h | line h => cases course <;> rfl

end Peripherals.Gpio.Lines

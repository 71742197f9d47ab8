import Peripherals.Proofs.Adc.Bank
import Peripherals.Proofs.Gpio.Lines
import Peripherals.Proofs.Pwm.Record
import Peripherals.Proofs.Rig.Faults
import Peripherals.Proofs.Twin.Drivers
/-!
Simulated pins do not matter to each other. Main statement: at desks of all three kinds on simulated
devices, of which no faults are asked, keys are kept apart.
-/

set_option autoImplicit false

namespace Peripherals

/-! ### Simulated devices -/

namespace Adc.Bank

/-- What belongs to a pin: the value that was preset, and whether the channel is open. No fault is
armed. -/
def outlook : Outlook Bank UInt32 (Option Int32 × Bool) where
  look b pin := (b.values.get? pin, decide (pin ∈ b.opened))
  keyOf := id
  fit b := b.failRead = false ∧ b.failClose = false

private theorem look_insertOpen (b : Bank) (pin other : UInt32) : outlook.look
    (b.insertOpen pin) other =
    (b.values.get? other, decide (other = pin ∨ other ∈ b.opened)) := by
  refine Prod.ext ?_ (decide_eq_decide.mpr (mem_insertOpen b pin other))
  change (b.insertOpen pin).values.get? other = b.values.get? other
  unfold insertOpen
  split <;> rfl

private theorem look_eraseOpen (b : Bank) (pin other : UInt32) : outlook.look (b.eraseOpen pin) other =
    (b.values.get? other, decide (other ∈ b.opened ∧ other ≠ pin)) :=
  Prod.ext rfl (decide_eq_decide.mpr (mem_eraseOpen b pin other))

private theorem fit_insertOpen {b : Bank} (fit : outlook.fit b) (pin : UInt32) :
    outlook.fit (b.insertOpen pin) := by
  unfold insertOpen
  split <;> exact fit

variable (channels : UInt32)

private theorem claims_local : LocalClaims outlook Config.pin (driver channels).claim where
  alike c b b' _ _ same := by
    rw [claim_apply, claim_apply]
    split
    · exact ⟨rfl, same⟩
    · refine ⟨rfl, ?_⟩
      rw [look_insertOpen, look_insertOpen, show b.values.get? c.pin = b'.values.get? c.pin from
        (Prod.mk.inj same).1]
      exact Prod.ext rfl (decide_eq_decide.mpr (iff_of_true (.inl rfl) (.inl rfl)))
  stays c b fit := by
    rw [claim_apply]
    split
    · exact ⟨fit, fun _ _ => rfl⟩
    · refine ⟨fit_insertOpen fit _, fun pin differs => (look_insertOpen b c.pin pin).trans ?_⟩
      exact Prod.ext rfl (decide_eq_decide.mpr (or_iff_right differs))
  keyed c b ch _ claimed := by
    rw [claim_apply] at claimed
    split at claimed
    · cases claimed
    · exact (Except.ok.inj claimed).symm

private theorem read_local : Local outlook (driver channels).read where
  alike b b' pin fit fit' same := by
    have value : b.values.getD pin 0 = b'.values.getD pin 0 :=
      congrArg (fun o : Option Int32 => o.getD 0) (Prod.mk.inj same).1
    rw [read_apply, read_apply, fit.1, fit'.1]
    exact ⟨congrArg Except.ok value, rfl, same⟩
  stays b pin fit := by
    rw [read_apply, fit.1]
    exact ⟨fit, rfl, fun _ _ => rfl⟩

private theorem close_local : Local outlook (driver channels).close where
  alike b b' pin fit fit' same := by
    rw [close_apply, close_apply, fit.2, fit'.2]
    refine ⟨rfl, rfl, ?_⟩
    change outlook.look (b.eraseOpen pin) pin = outlook.look (b'.eraseOpen pin) pin
    rw [look_eraseOpen, look_eraseOpen, show b.values.get? pin = b'.values.get? pin from
      (Prod.mk.inj same).1]
    exact Prod.ext rfl (decide_eq_decide.mpr (iff_of_false (fun h => h.2 rfl) fun h => h.2 rfl))
  stays b pin fit := by
    rw [close_apply, fit.2]
    refine ⟨fit, rfl, fun other differs => (look_eraseOpen b pin other).trans ?_⟩
    exact Prod.ext rfl (decide_eq_decide.mpr (and_iff_left differs))

private theorem manager_local : (Manager.adc (driver channels)).Local outlook :=
  Driver.manager_local (aloof channels) (claims_local channels) (read_local channels)
    (close_local channels)

private theorem presets : Presets outlook fun pin value b => preset b pin value where
  alike pin value b b' _ _ same := by
    refine Prod.ext ?_ (Prod.mk.inj same).2
    exact (Assoc.get?_put_self _ _ _).trans (Assoc.get?_put_self _ _ _).symm
  stays pin value b fit :=
    ⟨fit, fun _ differs => Prod.ext (Assoc.get?_put_of_ne _ value differs) rfl⟩

end Adc.Bank

namespace Gpio.Lines

/-- What belongs to a line: its level, and whether it is open. -/
def outlook : Outlook Lines UInt32 (Bool × Bool) where
  look l line := (l.level line, decide (line ∈ l.opened))
  keyOf := id
  fit _ := True

private theorem look_drive (l : Lines) (line : UInt32) (level : Bool) (other : UInt32) :
    outlook.look (l.drive line level) other =
      (if other = line then level else l.level other, decide (other ∈ l.opened)) :=
  Prod.ext (level_drive l line level other) rfl

private theorem look_insertOpen (l : Lines) (line other : UInt32) : outlook.look
    (l.insertOpen line) other =
    (l.level other, decide (other = line ∨ other ∈ l.opened)) := by
  by_cases known : line ∈ l.opened
  · rw [show l.insertOpen line = l from if_pos known]
    refine Prod.ext rfl (decide_eq_decide.mpr (or_iff_right_of_imp ?_).symm)
    rintro rfl
    exact known
  · rw [show l.insertOpen line = { l with opened := line :: l.opened } from if_neg known]
    exact Prod.ext rfl (decide_eq_decide.mpr List.mem_cons)

private theorem look_eraseOpen (l : Lines) (line other : UInt32) : outlook.look
    (l.eraseOpen line) other =
    (l.level other, decide (other ∈ l.opened ∧ other ≠ line)) :=
  Prod.ext rfl (decide_eq_decide.mpr (by simp [eraseOpen]))

private theorem look_preparedFor (l : Lines) (c : Config) (line : UInt32) :
    outlook.look (l.preparedFor c) line =
      (if c.direction = .output ∧ line = c.line then c.initial else l.level line,
        decide (line ∈ l.opened)) := by
  unfold preparedFor
  by_cases output : c.direction = .output
  · rw [if_pos output, look_drive]
    simp only [output, true_and]
  · rw [if_neg output]
    simp only [output, false_and, if_false]
    rfl

private theorem claims_local : LocalClaims outlook Config.line driver.claim where
  alike c l l' _ _ same := by
    obtain ⟨level, _⟩ := Prod.mk.inj same
    rw [claim_apply, claim_apply]
    refine ⟨rfl, ?_⟩
    rw [look_insertOpen, look_insertOpen]
    refine Prod.ext ?_ (decide_eq_decide.mpr (iff_of_true (.inl rfl) (.inl rfl)))
    have prepared := (Prod.mk.inj (look_preparedFor l c c.line)).1
    have prepared' := (Prod.mk.inj (look_preparedFor l' c c.line)).1
    exact prepared.trans (Eq.trans (by rw [level]) prepared'.symm)
  stays c l _ := by
    rw [claim_apply]
    refine ⟨trivial, fun line differs => (look_insertOpen _ c.line line).trans ?_⟩
    obtain ⟨level, opened⟩ := Prod.mk.inj (look_preparedFor l c line)
    rw [if_neg fun same => differs same.2] at level
    refine Prod.ext level ((decide_eq_decide.mpr (or_iff_right differs)).trans opened)
  keyed c l line _ claimed := by
    rw [claim_apply] at claimed
    exact (Except.ok.inj claimed).symm

private theorem read_local : Local outlook driver.read where
  alike _ _ _ _ _ same := ⟨congrArg Except.ok (Prod.mk.inj same).1, rfl, same⟩
  stays _ _ _ := ⟨trivial, rfl, fun _ _ => rfl⟩

private theorem write_local (level : Bool) : Local outlook (driver.write level) where
  alike l l' line _ _ same := by
    refine ⟨rfl, rfl, ?_⟩
    change outlook.look (l.drive line level) line = outlook.look (l'.drive line level) line
    rw [look_drive, look_drive]
    exact Prod.ext ((if_pos rfl).trans (if_pos rfl).symm) (Prod.mk.inj same).2
  stays l line _ := by
    refine ⟨trivial, rfl, fun other differs => (look_drive l line level other).trans ?_⟩
    exact Prod.ext (if_neg differs) rfl

private theorem close_local : Local outlook driver.close where
  alike l l' line _ _ same := by
    refine ⟨rfl, rfl, ?_⟩
    change outlook.look (l.eraseOpen line) line = outlook.look (l'.eraseOpen line) line
    rw [look_eraseOpen, look_eraseOpen]
    exact Prod.ext (Prod.mk.inj same).1
      (decide_eq_decide.mpr (iff_of_false (fun h => h.2 rfl) fun h => h.2 rfl))
  stays l line _ := by
    refine ⟨trivial, rfl, fun other differs => (look_eraseOpen l line other).trans ?_⟩
    exact Prod.ext rfl (decide_eq_decide.mpr (and_iff_left differs))

private theorem manager_local : (Manager.gpio driver).Local outlook :=
  Driver.manager_local aloof claims_local read_local write_local close_local

private theorem presets : Presets outlook fun line level l => drive l line level where
  alike line level l l' _ _ same := by
    rw [look_drive, look_drive]
    exact Prod.ext ((if_pos rfl).trans (if_pos rfl).symm) (Prod.mk.inj same).2
  stays line level l _ := by
    refine ⟨trivial, fun other differs => (look_drive l line level other).trans ?_⟩
    exact Prod.ext (if_neg differs) rfl

end Gpio.Lines

namespace Pwm.Outputs

/-- What belongs to a pin: the signal of its output, if it is in use. -/
def outlook : Outlook Outputs UInt32 (Option Output) where
  look := output?
  keyOf := id
  fit _ := True

private theorem output?_put (o : Outputs) (pin : UInt32) (x : Output) (other : UInt32) :
    outlook.look ⟨o.channels.put pin x⟩ other = if other = pin then some x else o.output? other :=
  Assoc.get?_put o.channels pin other x

private theorem claims_local : LocalClaims outlook Config.pin driver.claim where
  alike c o o' _ _ _ := by
    refine ⟨rfl, ?_⟩
    exact (output?_put o c.pin _ c.pin).trans ((if_pos rfl).trans
      ((output?_put o' c.pin _ c.pin).trans (if_pos rfl)).symm)
  stays c o _ := ⟨trivial, fun pin differs => (output?_put o c.pin _ pin).trans (if_neg differs)⟩
  keyed c o pin _ claimed := (Except.ok.inj claimed).symm

private theorem update_local (f : Output → Output) : Local outlook (update f) where
  alike o o' pin _ _ same := by
    have known : o.output? pin = o'.output? pin := same
    rw [update_apply, update_apply, known]
    cases o'.output? pin with
    | none => exact ⟨rfl, rfl, same⟩
    | some x =>
      refine ⟨rfl, rfl, ?_⟩
      exact (output?_put o pin _ pin).trans ((if_pos rfl).trans
        ((output?_put o' pin _ pin).trans (if_pos rfl)).symm)
  stays o pin _ := by
    rw [update_apply]
    cases o.output? pin with
    | none => exact ⟨trivial, rfl, fun _ _ => rfl⟩
    | some x => exact ⟨trivial, rfl, fun other differs => (output?_put o pin _ other).trans (if_neg differs)⟩

private theorem close_local : Local outlook driver.close where
  alike _ _ _ _ _ _ :=
    ⟨rfl, rfl, (Assoc.get?_erase_self _ _).trans (Assoc.get?_erase_self _ _).symm⟩
  stays _ _ _ := ⟨trivial, rfl, fun _ differs => Assoc.get?_erase_of_ne _ differs⟩

private theorem manager_local : (Manager.pwm driver).Local outlook := by
  refine Driver.manager_local (fun verb => ?_) aloof claims_local close_local
  cases verb <;> exact update_local _

private theorem presets : Presets outlook fun (_ : UInt32) (nothing : Empty) => nothing.elim where
  alike _ nothing := nothing.elim
  stays _ nothing := nothing.elim

end Pwm.Outputs

/-- Simulated pins do not matter to each other, whatever is asked of the desk and whoever presets them.
At desks of analog inputs, of digital lines and of pulse-width outputs, what concerns one key is answered
as in a run without all the rest, with the handles numbered in the order in which they were given out,
and leaves the same lease and the same simulated state; and neighbours in a run that concern different
keys can change places. -/
theorem pins_do_not_interfere :
    (∀ channels, (Manager.adc (Adc.Bank.driver channels)).KeepsApart
      (fun pin value b => b.preset pin value)
      (fun b pin => (b.values.get? pin, decide (pin ∈ b.opened))) {}) ∧
    (Manager.gpio Gpio.Lines.driver).KeepsApart (fun line level l => l.drive line level)
      (fun l line => (l.level line, decide (line ∈ l.opened))) {} ∧
    (Manager.pwm Pwm.Outputs.driver).KeepsApart (fun _ nothing => Empty.elim nothing)
      Pwm.Outputs.output? {} :=
  ⟨fun channels => (Adc.Bank.manager_local channels).keepsApart Adc.Bank.presets ⟨rfl, rfl⟩,
    Gpio.Lines.manager_local.keepsApart Gpio.Lines.presets trivial,
    Pwm.Outputs.manager_local.keepsApart Pwm.Outputs.presets trivial⟩

/-- The requests for two lines change places: the handles do, and what is asked of the lines later is
asked under the other handles and answered the same. -/
theorem two_lines_in_either_order :
    let m := Manager.gpio Gpio.Lines.driver
    let happen := m.happen fun line (level : Bool) l => l.drive line level
    let start := Desk.vacant {} 1
    let a : Occurrence m.Command (UInt32 × Bool) := .command (Gpio.Command.request (.output 3 true))
    let b : Occurrence m.Command (UInt32 × Bool) := .command (Gpio.Command.request (.input 5))
    let one : List (Occurrence m.Command (UInt32 × Bool)) :=
      [.command (Gpio.Command.level ⟨1⟩), .outside (5, true), .command (Gpio.Command.level ⟨2⟩)]
    let other : List (Occurrence m.Command (UInt32 × Bool)) :=
      [.command (Gpio.Command.level ⟨2⟩), .outside (5, true), .command (Gpio.Command.level ⟨1⟩)]
    Action.replies happen other (Action.runAll happen [b, a] start) =
      Action.replies happen one (Action.runAll happen [a, b] start) := by
  intro m happen start a b one other
  have places := (pins_do_not_interfere.2.1.exchange 1 [] a b one 3 5 (by decide) rfl rfl).2.2.1
  exact places

end Peripherals

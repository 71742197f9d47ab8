import Peripherals.Proofs.Files.Ports
/-!
Pledges: writes that have to be answered by another write later. What is exported is to be unexported,
and an output that was switched on is to be switched off before its channel is unexported. Main
statement: how a log that grows keeps its pledges.
-/

set_option autoImplicit false

namespace Peripherals

/-! ### Pledges -/

/-- A pledge: the event by which it is made, those that redeem it, and those that must not come
before it is redeemed. -/
structure Pledge where
  made : FileEvent
  redeemed : FileEvent → Prop
  barred : FileEvent → Prop

namespace Pledge

/-- What was exported is unexported, or it is at least tried. -/
def ofExport (dir : Path) (bytes : List UInt8) : Pledge where
  made := .wrote (dir.join "export") bytes none
  redeemed e := ∃ cause?, e = .wrote (dir.join "unexport") bytes cause?
  barred _ := False

/-- A channel that was switched on is switched off, or it is at least tried, before anyone tries to
unexport it. -/
def ofSwitch (chip channel : Path) (bytes : List UInt8) : Pledge where
  made := .wrote (channel.join "enable") (Text.bytesOf "1") none
  redeemed e := ∃ cause?, e = .wrote (channel.join "enable") (Text.bytesOf "0") cause?
  barred e := ∃ cause?, e = .wrote (chip.join "unexport") bytes cause?

variable (p : Pledge)

/-- Whenever the pledge is made it is redeemed later, and nothing barred comes in between. -/
def Honored (log : FileLog) : Prop :=
  ∀ before after, log = before ++ p.made :: after →
    ∃ mid e rest, after = mid ++ e :: rest ∧ p.redeemed e ∧ ∀ x ∈ mid, ¬ p.barred x

/-- Whenever the pledge is made it is redeemed like this, or it still can be. -/
def Pending (log : FileLog) : Prop :=
  ∀ before after, log = before ++ p.made :: after →
    (∃ mid e rest, after = mid ++ e :: rest ∧ p.redeemed e ∧ ∀ x ∈ mid, ¬ p.barred x) ∨
      ∀ x ∈ after, ¬ p.barred x

variable {p} {log rest : FileLog}

theorem Honored.pending (honored : p.Honored log) : p.Pending log :=
  fun before after cut => .inl (honored before after cut)

theorem pending_of_unbarred (free : ∀ e, ¬ p.barred e) : p.Pending log :=
  fun _ _ _ => .inr fun x _ => free x

theorem honored_of_unmade (unmade : p.made ∉ log) : p.Honored log := by
  rintro before after rfl
  exact absurd (by simp) unmade

/-- A place in a log with more behind it lies in the log or in what is behind. -/
private theorem cut_cases {e : FileEvent} {before after : FileLog}
    (cut : log ++ rest = before ++ e :: after) :
    (∃ t, log = before ++ e :: t ∧ after = t ++ rest) ∨
      ∃ t, rest = t ++ e :: after := by
  rcases List.append_eq_append_iff.mp cut with ⟨t, rfl, later⟩ | ⟨t, rfl, later⟩
  · exact .inr ⟨t, later⟩
  · cases t with
    | nil => exact .inr ⟨[], later.symm⟩
    | cons x t =>
      obtain ⟨rfl, rfl⟩ := List.cons.inj later
      exact .inl ⟨t, rfl, rfl⟩

theorem Honored.append (honored : p.Honored log) (unmade : p.made ∉ rest) :
    p.Honored (log ++ rest) := by
  intro before after cut
  rcases cut_cases cut with ⟨t, early, rfl⟩ | ⟨t, rfl⟩
  · obtain ⟨mid, e, tail, rfl, redeems, free⟩ := honored before t early
    exact ⟨mid, e, tail ++ rest, by simp, redeems, free⟩
  · exact absurd (by simp) unmade

theorem Pending.append (pending : p.Pending log) (free : ∀ x ∈ rest, ¬ p.barred x) :
    p.Pending (log ++ rest) := by
  intro before after cut
  rcases cut_cases cut with ⟨t, early, rfl⟩ | ⟨t, rfl⟩
  · rcases pending before t early with ⟨mid, e, tail, rfl, redeems, apart⟩ | apart
    · exact .inl ⟨mid, e, tail ++ rest, by simp, redeems, apart⟩
    · refine .inr fun x member => ?_
      rcases List.mem_append.mp member with here | later
      · exact apart x here
      · exact free x later
  · exact .inr fun x member => free x (by simp [member])

/-- An event that redeems a pledge settles all that was pending. -/
theorem Pending.redeem (pending : p.Pending log) {e : FileEvent} (redeems : p.redeemed e)
    (other : e ≠ p.made) : p.Honored (log ++ [e]) := by
  intro before after cut
  rcases cut_cases cut with ⟨t, early, rfl⟩ | ⟨t, late⟩
  · rcases pending before t early with ⟨mid, e', tail, rfl, redeems', apart⟩ | apart
    · exact ⟨mid, e', tail ++ [e], by simp, redeems', apart⟩
    · exact ⟨t, e, [], rfl, redeems, apart⟩
  · have member : p.made ∈ [e] := by
      rw [late]
      simp
    exact absurd (List.mem_singleton.mp member).symm other

end Pledge

/-- All pledges of a log are honored: every export of any directory, and every channel of any chip. -/
def FileLog.Tidy (log : FileLog) : Prop :=
  (∀ dir bytes, (Pledge.ofExport dir bytes).Honored log) ∧
    ∀ (chip : Path) (pin : UInt32), (Pledge.ofSwitch chip (chip.join (Path.numbered "pwm" pin))
      (Text.bytesOf (Text.number pin.toNat))).Honored log

end Peripherals

import Peripherals.Proofs.Journal.Basic
/-!
The work of a desk of pulse-width outputs in turns. A turn is one call to the device, named by its
verb, and the note of it in the record. Main statement: all changes of an output are turns, with
looks at the record between them.
-/

set_option autoImplicit false

namespace Peripherals.Pwm

variable {σ C : Type}

namespace Verb

def note : Verb → Signal → Signal
  | .setRunning on => fun s => { s with running := on }
  | .setPeriod period => fun s => { s with config := { s.config with period } }
  | .setDuty duty => fun s => { s with config := { s.config with duty } }
  | .setPolarity polarity => fun s => { s with config := { s.config with polarity } }

end Verb

namespace Driver

variable (d : Driver σ C)

def calls : Verb → Action Fault (σ × C) Unit
  | .setRunning on => d.setRunning on
  | .setPeriod period => d.setPeriod period
  | .setDuty duty => d.setDuty duty
  | .setPolarity polarity => d.setPolarity polarity

def turn (verb : Verb) : Action Fault (σ × Lease Signal C) Unit := do
  Action.zoom Lease.channelLens (d.calls verb)
  amend verb.note

theorem run_eq_turn (on : Bool) : d.run on = d.turn (.setRunning on) := rfl

theorem changePeriod_eq_turn (period : UInt32) : d.changePeriod period = (do
    Action.ofExcept (checkDuty period (← recorded).config.duty)
    d.turn (.setPeriod period)) := rfl

theorem changeDuty_eq_turn (duty : UInt32) : d.changeDuty duty = (do
    Action.ofExcept (checkDuty (← recorded).config.period duty)
    d.turn (.setDuty duty)) := rfl

/-- The call and its note belong together: between them the record is behind the device. -/
theorem changePolarity_eq_turn (polarity : Polarity) : d.changePolarity polarity =
    recorded >>= fun s => (if s.running then d.turn (.setRunning false) else pure ()) >>= fun _ =>
      d.turn (.setPolarity polarity) >>= fun _ =>
        if s.running then d.turn (.setRunning true) else pure () := by
  refine bind_congr fun s => ?_
  have change_at_rest (last : Action Fault (σ × Lease Signal C) Unit) :
      (do
        Action.zoom Lease.channelLens (d.setPolarity polarity)
        amend fun s => { s with config := { s.config with polarity } }
        last) = d.turn (.setPolarity polarity) >>= fun _ => last := by
    rw [turn, bind_assoc]
    rfl
  rw [← change_at_rest]
  cases s with
  | mk config running =>
    cases running with
    | true => rfl
    | false =>
      simp only [Bool.false_eq_true, if_false, pure_bind]

theorem turn_apply (verb : Verb) (p : σ × Lease Signal C) :
    (d.turn verb p).answer = (d.calls verb (p.1, p.2.channel)).answer ∧
      (d.turn verb p).state = ((d.calls verb (p.1, p.2.channel)).state.1,
        ⟨if (d.calls verb (p.1, p.2.channel)).answer.isOk then verb.note p.2.settings
          else p.2.settings, (d.calls verb (p.1, p.2.channel)).state.2⟩) := by
  cases h : (d.calls verb (p.1, p.2.channel)).answer with
  | error f =>
    exact Action.bind_error (x := Action.zoom Lease.channelLens (d.calls verb)) (s := p)
      (fun _ => amend verb.note) h
  | ok u =>
    exact Action.bind_ok (x := Action.zoom Lease.channelLens (d.calls verb)) (s := p)
      (f := fun _ => amend verb.note) h

theorem halt_apply (p : σ × Lease Signal C) :
    d.halt p = if p.2.settings.running then d.run false p else ⟨.ok (), [], p⟩ := by
  rw [show d.halt p = (if p.2.settings.running then d.run false else pure () :
    Action Fault (σ × Lease Signal C) Unit) p from rfl]
  split <;> rfl

theorem watched_calls (verb : Verb) :
    d.watched.calls verb = Journal.calling (.use verb) (d.calls verb) := by
  cases verb <;> rfl

end Driver

end Peripherals.Pwm

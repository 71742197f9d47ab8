import Peripherals.Proofs.Pwm.Turn
import Peripherals.Proofs.Twin.Exchange
/-!
Keys apart. Main statements: at a desk all of whose work stays within the key at work, what concerns one
key can be told from the rest of a run, and neighbours that concern different keys can change places;
and what drivers of the three kinds have to give for this.
-/

set_option autoImplicit false

namespace Peripherals

variable {W V τ σ C : Type}

/-! ### Keys apart -/

/-- At a desk of simulated resources no key matters to another. What concerns a key in a run is answered
the same when nothing else is asked, and leaves the same behind; and neighbours that concern different
keys can change places. -/
structure Manager.KeepsApart (m : Manager W) (preset : UInt32 → V → W → W) (look : W → UInt32 → τ)
    (world : W) : Prop where
  alone : ∀ first first' os key,
    let run := Action.runAll (m.happen preset) os (Desk.vacant world first)
    let part := m.excerpt preset key first' [] os (Desk.vacant world first)
    let own := Action.runAll (m.happen preset) (part.map Prod.fst) (Desk.vacant world first')
    Action.replies (m.happen preset) (part.map Prod.fst) (Desk.vacant world first') =
        part.map Prod.snd ∧
      look own.device key = look run.device key ∧ own.leases.on? key = run.leases.on? key
  exchange : ∀ first before a b after ka kb,
    let start := Desk.vacant world first
    let d := Action.runAll (m.happen preset) before start
    let ra := m.happen preset a d
    let rb := m.happen preset b ra.state
    let sb := m.happen preset b d
    let sa := m.happen preset a sb.state
    let ρ := Manager.exchanged (Manager.issued ka a ra.answer) (Manager.issued kb b rb.answer)
    let after' := after.map (Occurrence.mapCommand (m.redirect ρ))
    let one := Action.runAll (m.happen preset) (before ++ a :: b :: after) start
    let other := Action.runAll (m.happen preset) (before ++ b :: a :: after') start
    ka ≠ kb → Manager.concerns ka (Manager.issuedFor preset ka before start) a = true →
      Manager.concerns kb (Manager.issuedFor preset kb before start) b = true →
      sa.answer = Manager.renumbered ρ ra.answer ∧ sb.answer = Manager.renumbered ρ rb.answer ∧
        Action.replies (m.happen preset) after' sa.state =
          (Action.replies (m.happen preset) after rb.state).map (Manager.renumbered ρ) ∧
        ∀ key, look other.device key = look one.device key ∧
          other.leases.on? key = one.leases.on? key

private theorem Manager.mapCommand_redirect_id {m : Manager W}
    (os : List (Occurrence m.Command (UInt32 × V))) :
    os.map (Occurrence.mapCommand (m.redirect id)) = os := by
  refine (List.map_congr_left fun o _ => ?_).trans (List.map_id os)
  cases o with
  | command k => exact congrArg Occurrence.command (Manager.redirect_id k)
  | outside e => rfl

/-- Where all work stays within the key at work, keys are kept apart. -/
theorem Manager.Local.keepsApart {m : Manager W} {v : Outlook W m.Channel τ} (here : m.Local v)
    {preset : UInt32 → V → W → W} (presets : Presets v preset) {world : W} (fit : v.fit world) :
    m.KeepsApart preset v.look world where
  alone first first' os key := by
    intro run part own
    have start : Twin v key [] (Desk.vacant world first : Desk W m.Settings m.Channel)
        (Desk.vacant world first') := .vacant fit first first'
    obtain ⟨answers, _, twin⟩ := here.excerpt_run presets first' os start rfl (fun p none => nomatch none) rfl
    exact ⟨answers, twin.seen.symm, twin.on?_eq⟩
  exchange first before a b after ka kb := by
    intro start d ra rb sb sa ρ after' one other differ about about'
    obtain ⟨_, here_before⟩ := (Manager.Alike.vacant fit first).run here presets before
    rw [Manager.mapCommand_redirect_id] at here_before
    obtain ⟨answer, answer', there⟩ := here_before.exchange here presets differ about about'
    obtain ⟨answers, last⟩ := there.run here presets after
    refine ⟨answer, answer', answers, fun key => ?_⟩
    have onward (x y : Occurrence m.Command (UInt32 × V))
        (rest : List (Occurrence m.Command (UInt32 × V))) :
        Action.runAll (m.happen preset) (before ++ x :: y :: rest) start =
          Action.runAll (m.happen preset) rest
            (m.happen preset y (m.happen preset x d).state).state := List.foldl_append
    rw [show one = _ from onward a b after, show other = _ from onward b a after']
    exact ⟨(last.twins key).seen.symm, (last.twins key).on?_eq⟩

/-! ### The three kinds of drivers -/

section Drivers

variable {v : Outlook σ C τ}

theorem Adc.Driver.manager_local {d : Adc.Driver σ C} (aloof : d.Aloof)
    (claims : LocalClaims v Adc.Config.pin d.claim) (read : Local v d.read) (close : Local v d.close) :
    (Manager.adc d).Local v where
  device := ⟨claims, (Local.pure ()).bind fun _ => close.zoom⟩
  aloof := aloof.device
  errand k := by
    refine ⟨aloof.errand k, fun h work use => ?_⟩
    cases k with
    | value h =>
      cases use
      exact read.zoom.map _
    | request c | release h | config h => cases use

private theorem Gpio.Driver.driveLine_local {d : Gpio.Driver σ C}
    (write : ∀ level, Local v (d.write level))
    (b : Bool) : Local v.onLease (d.driveLine b) := by
  have by_direction (c : Gpio.Config) : Local (v.onLease (S := Gpio.Config))
      (if c.direction = .output then Action.zoom Lease.channelLens (d.write b)
        else Action.fail
          (.invalidArgument ("gpio " ++ Text.number c.line.toNat ++ " is an input line"))) := by
    split
    · exact (write b).zoom
    · exact .fail _
  exact Local.settings by_direction

theorem Gpio.Driver.manager_local {d : Gpio.Driver σ C} (aloof : d.Aloof)
    (claims : LocalClaims v Gpio.Config.line d.claim) (read : Local v d.read)
    (write : ∀ level, Local v (d.write level)) (close : Local v d.close) :
    (Manager.gpio d).Local v where
  device := ⟨claims, (Local.pure ()).bind fun _ => close.zoom⟩
  aloof := aloof.device
  errand k := by
    refine ⟨aloof.errand k, fun h work use => ?_⟩
    cases k with
    | level h =>
      cases use
      exact read.zoom.map _
    | drive h b =>
      cases use
      exact (driveLine_local write b).map _
    | request c | release h | name h | direction h | line h => cases use

namespace Pwm.Driver

variable {d : Pwm.Driver σ C} (calls : ∀ verb, Local v (d.calls verb))

include calls

private theorem turn_local (verb : Verb) : Local (v.onLease (S := Signal)) (d.turn verb) :=
  (calls verb).zoom.bind fun _ => .of_aside (g := fun _ => .ok ())
    (k := fun lease => { lease with settings := verb.note lease.settings }) (fun _ => rfl)
    (fun _ => rfl) fun _ => rfl

private theorem turnIf_local (running : Bool) (verb : Verb) :
    Local (v.onLease (S := Signal)) (if running then d.turn verb else pure ()) := by
  split
  · exact turn_local calls verb
  · exact .pure ()

private theorem changePolarity_local (polarity : Polarity) : Local v.onLease
    (d.changePolarity polarity) := by
  rw [d.changePolarity_eq_turn]
  refine Local.settings (f := fun s => (if s.running then d.turn (.setRunning false) else pure ()) >>=
    fun _ => d.turn (.setPolarity polarity) >>= fun _ =>
      if s.running then d.turn (.setRunning true) else pure ()) fun s => ?_
  exact (turnIf_local calls _ _).bind fun _ => (turn_local calls _).bind fun _ => turnIf_local calls _ _

theorem manager_local (aloof : d.Aloof) (claims : LocalClaims v Config.pin d.claim)
    (close : Local v d.close) : (Manager.pwm d).Local v where
  device := by
    refine ⟨⟨fun s => claims.alike s.config, fun s => claims.stays s.config,
      fun s => claims.keyed s.config⟩, ?_⟩
    refine Local.bind (Local.settings (f := fun s => if s.running then d.run false else pure ())
      fun s => ?_) fun _ => close.zoom
    exact turnIf_local calls s.running (.setRunning false)
  aloof := aloof.device
  errand k := by
    refine ⟨aloof.errand k, fun h work use => ?_⟩
    cases k with
    | enable h =>
      cases use
      exact (turn_local calls (.setRunning true)).map _
    | disable h =>
      cases use
      exact (turn_local calls (.setRunning false)).map _
    | setPeriod h period =>
      cases use
      exact (Local.settings fun s => (Local.ofExcept (Pwm.checkDuty period s.config.duty)).bind fun _ =>
        turn_local calls (.setPeriod period)).map _
    | setDuty h duty =>
      cases use
      exact (Local.settings fun s => (Local.ofExcept (Pwm.checkDuty s.config.period duty)).bind fun _ =>
        turn_local calls (.setDuty duty)).map _
    | setPolarity h polarity =>
      cases use
      exact (changePolarity_local calls polarity).map _
    | request c | release h | config h | isEnabled h => cases use

end Pwm.Driver

end Drivers

end Peripherals

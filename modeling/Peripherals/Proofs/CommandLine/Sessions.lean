import Peripherals.Proofs.CommandLine.AtWork
/-!
Commands at a board. Main statement: a command asks for the one module that it needs, and from there on
it keeps, in success and in every failure, what the commands of the module and the console keep.
-/

set_option autoImplicit false

namespace Peripherals

open Peripherals.Action (Leads Maintains)

variable {φ F : Type}

/-- Printing and waiting keep a property of the surroundings. -/
structure Console.Keeps (console : Console φ) (G : φ → Prop) : Prop where
  print : ∀ text s, G s → G (console.print text s)
  pause : ∀ ms s, G s → G (console.pause ms s)
  hold : Maintains G console.hold

private theorem Owned.maintains {σ S C : Type} {D : Desk σ S C → Prop} (dev : Device σ S C)
    (x : Owned S)
    (keeps : Maintains D (dev.release x.handle)) :
    Maintains D (x.release dev) ∧ Maintains D (x.drop dev) := by
  constructor
  · unfold Owned.release
    split
    · exact Maintains.pure
    · exact keeps.bind fun _ => Maintains.pure
  · unfold Owned.drop
    split
    · exact Maintains.pure
    · refine Leads.bind keeps.attempt fun result => ?_
      cases result with
      | ok u => exact Maintains.pure
      | error e => exact Maintains.note _

namespace CommandLine

def Command.kind? : Command → Option ModuleKind
  | .platform | .modules | .config => none
  | .readAnalog _ _ _ _ => some .adc
  | .readLine _ | .writeLine _ _ => some .gpio
  | .runPulse _ _ => some .pwm

variable (fs : FileSystem φ F) (console : Console φ)

/-- The commands to the module, and the console, keep a property of its desk. -/
structure Kept (x : AnyModule F)
    (D : Desk (World φ) (x.manager fs).Settings (x.manager fs).Channel → Prop) : Prop where
  commands : ∀ k, Maintains D ((x.manager fs).perform k)
  outside : ∀ d : Desk (World φ) (x.manager fs).Settings (x.manager fs).Channel,
    console.Keeps fun files => D { d with device := { d.device with files } }

/-- Asking for the module of `x` leads to work at its desk. -/
abbrev Opens (P : Board (Rig φ F) × Rig φ F → Prop) (serial : Nat) (x : AnyModule F)
    (D : Desk (World φ) (x.manager fs).Settings (x.manager fs).Channel → Prop) : Prop :=
  Leads P (atBoard (Board.requestKind x.kind))
    (fun m s => m = ⟨x.kind, serial⟩ ∧ AtWork fs ⟨x.kind, serial⟩ x D s)
    (AtWork fs ⟨x.kind, serial⟩ x D)

variable {fs console}

private theorem answerOf_maintains {α : Type} {P : Board (Rig φ F) × Rig φ F → Prop}
    (x : Except Refusal α) :
    Maintains P (answerOf x : Work φ F α) :=
  .ofExcept _

namespace Kept

variable {m : ModuleRef} {x : AnyModule F}
  {D : Desk (World φ) (x.manager fs).Settings (x.manager fs).Channel → Prop}

private theorem say (kept : Kept fs console x D) (line : String) :
    Maintains (AtWork fs m x D) (say console line) :=
  .of_keeps fun _ atWork => atWork.surroundings fun d => (kept.outside d).print _ d.device.files

private theorem pause (kept : Kept fs console x D) (ms : UInt64) :
    Maintains (AtWork fs m x D) (surroundings (console.pause ms)) :=
  .of_keeps fun _ atWork => atWork.surroundings fun d => (kept.outside d).pause ms d.device.files

private theorem hold (kept : Kept fs console x D) :
    Maintains (AtWork fs m x D) (awaitUser console) :=
  .of_keeps fun _ atWork => atWork.surroundings (f := fun files => (console.hold files).state)
    fun d => (kept.outside d).hold.keeps

theorem release : Maintains (AtWork fs m x D) (atBoard (Board.release m)) :=
  .of_keeps fun _ atWork => atWork.release

end Kept

private theorem ActsAt.maintains {α : Type} {m : ModuleRef} {x : AnyModule F}
    {D : Desk (World φ) (x.manager fs).Settings (x.manager fs).Channel → Prop}
    {work : Action Fault (Desk (World φ) (x.manager fs).Settings (x.manager fs).Channel) α}
    {step : Work φ F α} (acts : ActsAt fs m x work step) (h : Maintains D work) :
    Maintains (AtWork fs m x D) step :=
  acts.leads h

/-! ### Commands, kind by kind -/

section Analog

variable {a : Adc.Module F} {D : Desk (World φ) Adc.Config (a.backend.Channel F) → Prop} {serial : Nat}

private theorem Kept.samples (kept : Kept fs console (.adc a) D) (x : Adc.Scaled) (interval : UInt64)
    (n : Nat) :
    Maintains (AtWork fs ⟨.adc, serial⟩ (.adc a) D) (readSamples fs console serial x interval n) := by
  have reads : Maintains D (x.read (a.backend.driver fs)) :=
    ((kept.commands (.value x.pin.handle)).of_map (x := (a.backend.driver fs).value _)).mapError.bind
      fun _ => Maintains.pure
  induction n with
  | zero => exact Maintains.pure
  | succ n ih =>
    refine ((actsAt_onAdc fs a fun _ d => Action.attempt (x.read d)).maintains
      reads.attempt).bind fun result => ?_
    refine (answerOf_maintains result).bind fun value => ?_
    refine (kept.say _).bind fun _ => ?_
    split
    · exact (kept.pause interval).bind fun _ => ih
    · exact ih

private theorem Kept.readAnalog (kept : Kept fs console (.adc a) D)
    {P : Board (Rig φ F) × Rig φ F → Prop}
    (first : Opens fs P serial (.adc a) D)
    (pin count : UInt32) (interval : UInt64) (scale : Float) :
    Leads P (readAnalog fs console pin count interval scale)
      (fun _ => AtWork fs ⟨.adc, serial⟩ (.adc a) D) (AtWork fs ⟨.adc, serial⟩ (.adc a) D) := by
  refine first.bind_eq ?_
  have asks := (kept.commands (.request (Adc.Config.ofPin pin))).of_map
    (x := (a.backend.driver fs).request _)
  refine ((actsAt_onAdc fs a fun _ d => d.request (Adc.Config.ofPin pin)).maintains asks).bind
    fun h => ?_
  have drops := (Owned.maintains (a.backend.driver fs).device ⟨h, Adc.Config.ofPin pin, false⟩
    ((kept.commands (.release h)).of_map (x := (a.backend.driver fs).release h))).2
  refine ((kept.samples _ interval _).followedBy ((actsAt_onAdc fs a fun _ d =>
    Owned.drop d.device ⟨h, Adc.Config.ofPin pin, false⟩).maintains drops)).bind fun _ => ?_
  exact Kept.release

end Analog

section Lines

variable {a : Gpio.Module F} {D : Desk (World φ) Gpio.Config (a.backend.Channel F) → Prop}
  {serial : Nat} {P : Board (Rig φ F) × Rig φ F → Prop}

private theorem Kept.readLine (kept : Kept fs console (.gpio a) D)
    (first : Opens fs P serial (.gpio a) D) (line : UInt32) :
    Leads P (readLine fs console line) (fun _ => AtWork fs ⟨.gpio, serial⟩ (.gpio a) D)
      (AtWork fs ⟨.gpio, serial⟩ (.gpio a) D) := by
  refine first.bind_eq ?_
  have asks := (kept.commands (.request (Gpio.Config.input line))).of_map
    (x := (a.backend.driver fs).request _)
  refine ((actsAt_onGpio fs a fun _ d => d.request (Gpio.Config.input line)).maintains asks).bind
    fun h => ?_
  obtain ⟨returns, drops⟩ := Owned.maintains (a.backend.driver fs).device
    ⟨h, Gpio.Config.input line, false⟩
    ((kept.commands (.release h)).of_map (x := (a.backend.driver fs).release h))
  have dropped := (actsAt_onGpio (n := serial) fs a fun _ d =>
    Owned.drop d.device ⟨h, Gpio.Config.input line, false⟩).maintains drops
  have levels := (actsAt_onGpio (n := serial) fs a fun _ d => d.level h).maintains
    ((kept.commands (.level h)).of_map (x := (a.backend.driver fs).level h))
  refine Leads.bind levels.attempt fun level => ?_
  cases level with
  | error e => exact dropped.bind fun _ => Maintains.fail
  | ok level =>
    refine (kept.say _).bind fun _ => ?_
    have returned := (actsAt_onGpio (n := serial) fs a fun _ d =>
      Owned.release d.device ⟨h, Gpio.Config.input line, false⟩).maintains returns
    refine Leads.bind returned.attempt fun result => ?_
    cases result with
    | ok _ => exact Kept.release
    | error e => exact dropped.bind fun _ => Maintains.fail

private theorem Kept.reportWritten (kept : Kept fs console (.gpio a) D) (lets : Logging.Filter)
    (x : Gpio.Switch) :
    Maintains (AtWork fs ⟨.gpio, serial⟩ (.gpio a) D) (reportWritten fs lets serial x) := by
  have reads : Maintains D (x.isOn (a.backend.driver fs) "value") :=
    (Maintains.ofExcept _).bind fun _ => ((kept.commands (.level x.pin.handle)).of_map
      (x := (a.backend.driver fs).level x.pin.handle)).mapError
  unfold CommandLine.reportWritten
  split
  · refine ((actsAt_onGpio fs a fun _ d => Action.attempt (x.isOn d "value")).maintains
      reads.attempt).bind fun result => ?_
    exact (answerOf_maintains result).bind fun _ => Maintains.note _
  · exact Maintains.pure

private theorem Kept.writeLine (kept : Kept fs console (.gpio a) D)
    (first : Opens fs P serial (.gpio a) D) (lets : Logging.Filter) (line : UInt32) (high : Bool) :
    Leads P (writeLine fs lets line high) (fun _ => AtWork fs ⟨.gpio, serial⟩ (.gpio a) D)
      (AtWork fs ⟨.gpio, serial⟩ (.gpio a) D) := by
  refine first.bind_eq ?_
  have asks := (kept.commands (.request (Gpio.Config.output line high))).of_map
    (x := (a.backend.driver fs).request _)
  refine ((actsAt_onGpio fs a fun _ d => d.request (Gpio.Config.output line high)).maintains
    asks).bind fun h => ?_
  have drops := (Owned.maintains (a.backend.driver fs).device ⟨h, Gpio.Config.output line high, false⟩
    ((kept.commands (.release h)).of_map (x := (a.backend.driver fs).release h))).2
  have turns : Maintains D (Gpio.Switch.turn (a.backend.driver fs)
      ⟨⟨h, Gpio.Config.output line high, false⟩⟩ "value" high) :=
    (Maintains.ofExcept _).bind fun _ =>
      ((kept.commands (.drive h high)).of_map (x := (a.backend.driver fs).drive h high)).mapError
  refine Maintains.followedBy ?_ ((actsAt_onGpio fs a fun _ d =>
    Owned.drop d.device ⟨h, Gpio.Config.output line high, false⟩).maintains drops) |>.bind
      fun _ => Kept.release
  refine ((actsAt_onGpio fs a fun _ d => Action.attempt (Gpio.Switch.turn d
    ⟨⟨h, Gpio.Config.output line high, false⟩⟩ "value" high)).maintains
      turns.attempt).bind fun result => ?_
  exact (answerOf_maintains result).bind fun _ => kept.reportWritten lets _

end Lines

private theorem Kept.runPulse {a : Pwm.Module} {D : Desk (World φ) Pwm.Signal a.backend.Channel → Prop}
    {serial : Nat} {P : Board (Rig φ F) × Rig φ F → Prop} (kept : Kept fs console (.pwm a) D)
    (first : Opens fs P serial (.pwm a) D)
    (c : Pwm.Config) (duration : Option UInt64) :
    Leads P (runPulse fs console c duration) (fun _ => AtWork fs ⟨.pwm, serial⟩ (.pwm a) D)
      (AtWork fs ⟨.pwm, serial⟩ (.pwm a) D) := by
  refine first.bind_eq ?_
  have asks := (kept.commands (.request c)).of_map (x := (a.backend.driver fs).request c)
  refine ((actsAt_onPwm fs a fun _ d => d.request c).maintains asks).bind fun h => ?_
  have drops := (Owned.maintains (a.backend.driver fs).device ⟨h, ⟨c, false⟩, false⟩
    ((kept.commands (.release h)).of_map (x := (a.backend.driver fs).release h))).2
  have enables : Maintains D (Pwm.Parameters.setValue (a.backend.driver fs) ⟨⟨h, ⟨c, false⟩, false⟩⟩
      "enabled" (.bool true)) := by
    refine Leads.bind (Maintains.ofExcept _) fun on => Leads.mapError ?_
    cases on with
    | true => exact (kept.commands (.enable h)).of_map
    | false => exact (kept.commands (.disable h)).of_map
  refine Maintains.followedBy ?_ ((actsAt_onPwm fs a fun _ d =>
    Owned.drop d.device ⟨h, ⟨c, false⟩, false⟩).maintains drops) |>.bind fun _ => Kept.release
  refine ((actsAt_onPwm fs a fun _ d => Action.attempt (Pwm.Parameters.setValue d
    ⟨⟨h, ⟨c, false⟩, false⟩⟩ "enabled" (.bool true))).maintains
      enables.attempt).bind fun result => ?_
  refine (answerOf_maintains result).bind fun _ => (Maintains.note _).bind fun _ => ?_
  cases duration with
  | some ms => exact kept.pause ms
  | none => exact kept.hold

/-! ### All commands -/

theorem Kept.perform {x : AnyModule F} {serial : Nat}
    {D : Desk (World φ) (x.manager fs).Settings (x.manager fs).Channel → Prop}
    {P : Board (Rig φ F) × Rig φ F → Prop} (kept : Kept fs console x D) {command : Command}
    (needs : command.kind? = some x.kind)
    (first : Opens fs P serial x D) (lets : Logging.Filter) :
    Leads P (CommandLine.perform fs console lets command) (fun _ => AtWork fs ⟨x.kind, serial⟩ x D)
      (AtWork fs ⟨x.kind, serial⟩ x D) := by
  cases x with
  | adc a =>
    cases command with
    | readAnalog pin count interval scale => exact kept.readAnalog first pin count interval scale
    | _ => cases needs
  | gpio a =>
    cases command with
    | readLine line => exact kept.readLine first line
    | writeLine line high => exact kept.writeLine first lets line high
    | _ => cases needs
  | pwm a =>
    cases command with
    | runPulse c duration => exact kept.runPulse first c duration
    | _ => cases needs

section

variable (fs console) (lets : Logging.Filter)

theorem perform_refused {command : Command} {kind : ModuleKind} (needs : command.kind? = some kind)
    {s : Board (Rig φ F) × Rig φ F} {c : Complaint}
    (refused : (atBoard (Board.requestKind kind) s).answer = .error c) :
    (perform fs console lets command s).answer = .error c ∧
      (perform fs console lets command s).state = (atBoard (Board.requestKind kind) s).state := by
  cases command with
  | platform | modules | config => cases needs
  | readAnalog pin count interval scale =>
    cases needs
    exact Action.bind_error _ refused
  | readLine line =>
    cases needs
    exact Action.bind_error _ refused
  | writeLine line high =>
    cases needs
    exact Action.bind_error _ refused
  | runPulse c duration =>
    cases needs
    exact Action.bind_error _ refused

/-- A command that needs no module prints at most. -/
theorem perform_moduleless {command : Command} (needs : command.kind? = none) {G : φ → Prop}
    (prints : ∀ text s, G s → G (console.print text s)) :
    Maintains (fun s : Board (Rig φ F) × Rig φ F => s.1.installed = ∅ ∧ G s.2.world.files)
      (perform fs console lets command) := by
  have speaks (line : String) : Maintains
      (fun s : Board (Rig φ F) × Rig φ F => s.1.installed = ∅ ∧ G s.2.world.files)
      (say console line) :=
    .of_keeps fun s kept => ⟨kept.1, prints _ s.2.world.files kept.2⟩
  have looks : Maintains
      (fun s : Board (Rig φ F) × Rig φ F => s.1.installed = ∅ ∧ G s.2.world.files)
      (Action.get : Work φ F _) :=
    .of_keeps fun _ => id
  cases command with
  | platform => exact looks.bind fun s => speaks _
  | modules =>
    refine looks.bind fun s => ?_
    exact (speaks _).bind fun _ => (speaks _).bind fun _ => (speaks _).bind fun _ => Maintains.pure
  | config => exact Maintains.pure
  | readAnalog | readLine | writeLine | runPulse => cases needs

end

end CommandLine

end Peripherals

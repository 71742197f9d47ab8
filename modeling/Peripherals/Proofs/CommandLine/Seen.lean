import Peripherals.CommandLine.Run
import Peripherals.Proofs.Board.Seen
/-!
Views of the command line. Main statement: where one file system and one console do, in a view of the
surroundings, what others do, every command line is reported the same and leaves the same behind.
-/

set_option autoImplicit false

namespace Peripherals

open Peripherals.Action (Alongside Mirrors)

variable {σ φ F α ε : Type} {f : σ → φ} {fs' : FileSystem σ F} {fs : FileSystem φ F}

/-- In the view `f` of the surroundings, a console does what another one does. -/
structure Console.SeenAs (console' : Console σ) (f : σ → φ) (console : Console φ) : Prop where
  print : ∀ text s, console.print text (f s) = f (console'.print text s)
  pause : ∀ ms s, console.pause ms (f s) = f (console'.pause ms s)
  hold : Mirrors f id console'.hold console.hold
  logger : console'.logger = console.logger

/-! ### Configurations and boards -/

namespace FileSystem.SeenAs

private theorem isFile (m : fs'.SeenAs f fs) (p : Path) :
    Mirrors f id (fs'.isFile p : Action ε σ Bool) (fs.isFile p) := by
  refine Mirrors.bind (m.locate p).attempt fun found => ?_
  cases found with
  | ok kind => exact Mirrors.pure _
  | error e => exact Mirrors.pure _

private theorem configuration (m : fs'.SeenAs f fs) (file : Path) (vars : List (String × String)) :
    Mirrors f id (Configuration.load fs' file vars) (Configuration.load fs file vars) := by
  have settings : Mirrors f id (Configuration.readFileSettings fs' file)
      (Configuration.readFileSettings fs file) := by
    refine Mirrors.bind (m.isFile file) fun there => ?_
    cases there with
    | false => exact Mirrors.pure none
    | true =>
      exact Mirrors.bind ((m.readFile file).mapError _) fun bytes => (Mirrors.ofExcept _).map _
  exact Mirrors.bind (Mirrors.ofExcept _) fun _ => Mirrors.bind settings fun _ =>
    Mirrors.ofExcept _

private theorem configure (m : fs'.SeenAs f fs) (i : CommandLine.Invocation)
    (vars : List (String × String)) :
    Mirrors f id (CommandLine.configure fs' i vars) (CommandLine.configure fs i vars) :=
  Mirrors.bind ((m.configuration i.file vars).mapError _) fun _ =>
    Mirrors.bind (Mirrors.ofExcept _) fun _ => Mirrors.pure _

private theorem resolve (m : fs'.SeenAs f fs) (model : Option String) (procRoot : Path) :
    Mirrors f id (Platform.resolve fs' model procRoot : Action ε σ Platform)
      (Platform.resolve fs model procRoot) := by
  cases model with
  | some model => exact Mirrors.pure _
  | none =>
    have reads (p : Path) : Mirrors f id (Platform.readModel fs' p) (Platform.readModel fs p) := by
      refine Mirrors.bind (m.readFile p) fun bytes => ?_
      simp only [id]
      cases Text.ofBytes? bytes with
      | some text => exact Mirrors.pure text
      | none => exact Mirrors.fail _
    refine Mirrors.bind (reads _).attempt fun result => ?_
    cases result with
    | ok model => exact Mirrors.bind (Mirrors.note _) fun _ => Mirrors.pure _
    | error e => exact Mirrors.bind (Mirrors.note _) fun _ => Mirrors.pure _

end FileSystem.SeenAs

/-- The platform of the board that a configuration describes, with what is reported of the board. -/
def Board.announce (fs : FileSystem φ F) (c : Configuration) : Action Fault φ Platform := do
  Action.ofExcept (c.validate.mapError Fault.configuration)
  let platform ← Platform.resolve fs c.board.model ⟨c.board.procRoot⟩
  Action.note ⟨.info, "Module registry ready", [("platform", platform.name),
    ("modules", kindsLabel (ofPlatform c platform : Board (Rig φ F)).available)]⟩
  return platform

private theorem Board.ofConfiguration_bind (fs : FileSystem φ F) (c : Configuration)
    (reword : Fault → ε)
    (k : Board (Rig φ F) → Action ε φ α) :
    (Action.mapError reword (ofConfiguration fs c) >>= k) =
      (Action.mapError reword (announce fs c) >>= fun platform => k (ofPlatform c platform)) := by
  have split : ofConfiguration fs c = ofPlatform c <$> announce fs c := by
    simp only [ofConfiguration, announce, map_bind, map_pure]
  rw [split]
  funext s
  simp only [Action.bind_apply, Action.mapError, Action.map_apply]
  cases (announce fs c s).answer <;> rfl

private theorem Board.announce_mirrors (m : fs'.SeenAs f fs) (c : Configuration) :
    Mirrors f id (announce fs' c) (announce fs c) := by
  refine Mirrors.bind (Mirrors.ofExcept _) fun _ => Mirrors.bind (m.resolve _ _) fun platform => ?_
  rw [(ofPlatform_seenAs f c (id platform) (F := F)).available_eq]
  exact Mirrors.bind (Mirrors.note _) fun _ => Mirrors.pure _

/-! ### Capabilities -/

private theorem Adc.Scaled.read_mirrors {C : Type} {d' : Driver σ C} {d : Driver φ C} {g : C → C}
    (m : d'.SeenAs f g d) (x : Scaled) :
    Mirrors (Desk.seen f g) id (x.read d') (x.read d) :=
  Mirrors.bind ((Desk.withLease_seen _ (Lease.channel_mirrors m.read)).mapError _) fun _ =>
    Mirrors.pure _

private theorem Gpio.Switch.turn_mirrors {C : Type} {d' : Driver σ C} {d : Driver φ C} {g : C → C}
    (m : d'.SeenAs f g d) (x : Switch) (name : String) (on : Bool) :
    Mirrors (Desk.seen f g) id (x.turn d' name on) (x.turn d name on) :=
  Mirrors.bind (Mirrors.ofExcept _) fun _ =>
    (Desk.withLease_seen _ (m.driveLine on)).mapError _

private theorem Gpio.Switch.isOn_mirrors {C : Type} {d' : Driver σ C} {d : Driver φ C} {g : C → C}
    (m : d'.SeenAs f g d) (x : Switch) (name : String) :
    Mirrors (Desk.seen f g) id (x.isOn d' name) (x.isOn d name) :=
  Mirrors.bind (Mirrors.ofExcept _) fun _ =>
    (Desk.withLease_seen _ (Lease.channel_mirrors m.read)).mapError _

private theorem Pwm.Parameters.enable_mirrors {C : Type} {d' : Driver σ C} {d : Driver φ C} {g : C → C}
    (m : d'.SeenAs f g d) (x : Parameters) (value : Json) :
    Mirrors (Desk.seen f g) id (x.setValue d' "enabled" value) (x.setValue d "enabled" value) :=
  Mirrors.bind (Mirrors.ofExcept _) fun on =>
    (Desk.withLease_seen _ (m.turn (.setRunning on))).mapError _

namespace CommandLine

variable {console' : Console σ} {console : Console φ}

/-! ### Steps at a board -/

private theorem atBoard_alongside {x : Action Fault (Board (Rig σ F) × Rig σ F) α}
    {y : Action Fault (Board (Rig φ F) × Rig φ F) α}
    (h : Alongside (Board.Paired (Rig.seen f)) x y) :
    Alongside (Board.Paired (Rig.seen f)) (atBoard x) (atBoard y) :=
  h.mapError _

private theorem onRig_alongside {x : Action Fault (Rig σ F) α} {y : Action Fault (Rig φ F) α}
    (m : Mirrors (Rig.seen f) id x y) :
    Alongside (Board.Paired (Rig.seen f)) (onRig x) (onRig y) :=
  atBoard_alongside (.zoom m (fun _ _ related => related.2) fun _ _ _ related => ⟨related.1, rfl⟩)

private theorem answerOf_alongside (x : Except Refusal α) :
    Alongside (Board.Paired (Rig.seen f)) (answerOf x : Work σ F α) (answerOf x : Work φ F α) :=
  .ofExcept _

private theorem atFiles_alongside {ε : Type} {x : Action ε σ α} {y : Action ε φ α}
    (m : Mirrors f id x y) :
    Alongside (Board.Paired (Rig.seen f))
      (Action.zoom filesLens x : Action ε (Board (Rig σ F) × Rig σ F) α) (Action.zoom filesLens y) := by
  refine .zoom m (fun s t related => ?_) fun files s t related => ?_
  · exact congrArg (·.world.files) related.2
  · refine ⟨related.1, ?_⟩
    exact congrArg (fun r : Rig φ F => { r with world := { r.world with files := f files } }) related.2

private theorem surroundings_alongside {k' : σ → σ} {k : φ → φ} (same : ∀ s, k (f s) = f (k' s)) :
    Alongside (Board.Paired (Rig.seen f)) (surroundings k' : Work σ F Unit) (surroundings k) :=
  atFiles_alongside (Mirrors.modify same)

private theorem awaitUser_alongside (consoles : console'.SeenAs f console) :
    Alongside (Board.Paired (Rig.seen f)) (awaitUser console' : Work σ F Unit) (awaitUser console) :=
  (atFiles_alongside consoles.hold).mapError _

private theorem say_alongside (consoles : console'.SeenAs f console) (line : String) :
    Alongside (Board.Paired (Rig.seen f)) (say console' line : Work σ F Unit) (say console line) :=
  surroundings_alongside (consoles.print _)

private theorem release_alongside (ref : ModuleRef) :
    Alongside (Board.Paired (Rig.seen f)) (atBoard (Board.release ref) : Work σ F Unit)
      (atBoard (Board.release ref)) :=
  atBoard_alongside (Board.releaseAs_alongside _ _)

/-! ### Commands -/

section Commands

variable (m : fs'.SeenAs f fs) (consoles : console'.SeenAs f console)

include m consoles

private theorem readSamples_alongside (serial : Nat) (x : Adc.Scaled) (interval : UInt64) (n : Nat) :
    Alongside (Board.Paired (Rig.seen f)) (readSamples fs' console' serial x interval n)
      (readSamples fs console serial x interval n) := by
  induction n with
  | zero => exact .pure ()
  | succ n ih =>
    refine (onRig_alongside (Rig.onAdc_mirrors m serial fun d => (x.read_mirrors d).attempt)).bind
      fun result => ?_
    refine (answerOf_alongside result).bind fun value => ?_
    refine (say_alongside consoles _).bind fun _ => ?_
    split
    · exact (surroundings_alongside (consoles.pause interval)).bind fun _ => ih
    · exact ih

private theorem readAnalog_alongside (pin count : UInt32) (interval : UInt64) (scale : Float) :
    Alongside (Board.Paired (Rig.seen f)) (readAnalog fs' console' pin count interval scale)
      (readAnalog fs console pin count interval scale) := by
  refine (atBoard_alongside (Board.requestKind_alongside _)).bind fun ref => ?_
  refine (onRig_alongside (Rig.onAdc_mirrors m ref.serial fun d => d.device.request _)).bind
    fun h => ?_
  have drops := onRig_alongside (Rig.onAdc_mirrors m ref.serial fun d =>
    (d.device.owned ⟨h, Adc.Config.ofPin pin, false⟩).2)
  refine ((readSamples_alongside m consoles _ _ _ _).followedBy drops).bind fun _ => ?_
  exact release_alongside ref

private theorem readLine_alongside (line : UInt32) :
    Alongside (Board.Paired (Rig.seen f)) (readLine fs' console' line) (readLine fs console line) := by
  refine (atBoard_alongside (Board.requestKind_alongside _)).bind fun ref => ?_
  refine (onRig_alongside (Rig.onGpio_mirrors m ref.serial fun d => d.device.request _)).bind
    fun h => ?_
  have levels := onRig_alongside (Rig.onGpio_mirrors m ref.serial fun d =>
    Desk.withLease_seen h (Lease.channel_mirrors d.read))
  have returns := onRig_alongside (Rig.onGpio_mirrors m ref.serial fun d =>
    (d.device.owned ⟨h, Gpio.Config.input line, false⟩).1)
  have drops := onRig_alongside (Rig.onGpio_mirrors m ref.serial fun d =>
    (d.device.owned ⟨h, Gpio.Config.input line, false⟩).2)
  refine levels.attempt.bind fun level => ?_
  cases level with
  | error e => exact drops.bind fun _ => .fail e
  | ok level =>
    refine (say_alongside consoles _).bind fun _ => returns.attempt.bind fun result => ?_
    cases result with
    | ok _ => exact release_alongside ref
    | error e => exact drops.bind fun _ => .fail e

omit consoles in
private theorem reportWritten_alongside (lets : Logging.Filter) (serial : Nat) (x : Gpio.Switch) :
    Alongside (Board.Paired (Rig.seen f)) (reportWritten fs' lets serial x)
      (reportWritten fs lets serial x) := by
  unfold reportWritten
  split
  · have reads := onRig_alongside (Rig.onGpio_mirrors m serial fun d =>
      (Gpio.Switch.isOn_mirrors d x "value").attempt)
    exact reads.bind fun result => (answerOf_alongside result).bind fun _ => .note _
  · exact .pure ()

omit consoles in
private theorem writeLine_alongside (lets : Logging.Filter) (line : UInt32) (high : Bool) :
    Alongside (Board.Paired (Rig.seen f)) (writeLine fs' lets line high)
      (writeLine fs lets line high) := by
  refine (atBoard_alongside (Board.requestKind_alongside _)).bind fun ref => ?_
  refine (onRig_alongside (Rig.onGpio_mirrors m ref.serial fun d => d.device.request _)).bind
    fun h => ?_
  have turns := onRig_alongside (Rig.onGpio_mirrors m ref.serial fun d =>
    (Gpio.Switch.turn_mirrors d ⟨⟨h, Gpio.Config.output line high, false⟩⟩ "value" high).attempt)
  have drops := onRig_alongside (Rig.onGpio_mirrors m ref.serial fun d =>
    (d.device.owned ⟨h, Gpio.Config.output line high, false⟩).2)
  refine Alongside.followedBy ?_ drops |>.bind fun _ => release_alongside ref
  exact turns.bind fun result => (answerOf_alongside result).bind fun _ =>
    reportWritten_alongside m lets _ _

private theorem runPulse_alongside (c : Pwm.Config) (duration : Option UInt64) :
    Alongside (Board.Paired (Rig.seen f)) (runPulse fs' console' c duration)
      (runPulse fs console c duration) := by
  refine (atBoard_alongside (Board.requestKind_alongside _)).bind fun ref => ?_
  refine (onRig_alongside (Rig.onPwm_mirrors m ref.serial fun d =>
    Mirrors.bind (Mirrors.ofExcept c.check) fun _ => d.device.request _)).bind fun h => ?_
  have enables := onRig_alongside (Rig.onPwm_mirrors m ref.serial fun d =>
    (Pwm.Parameters.enable_mirrors d ⟨⟨h, ⟨c, false⟩, false⟩⟩ (.bool true)).attempt)
  have drops := onRig_alongside (Rig.onPwm_mirrors m ref.serial fun d =>
    (d.device.owned ⟨h, ⟨c, false⟩, false⟩).2)
  refine Alongside.followedBy ?_ drops |>.bind fun _ => release_alongside ref
  refine enables.bind fun result => (answerOf_alongside result).bind fun _ => (Alongside.note _).bind
    fun _ => ?_
  cases duration with
  | some ms => exact surroundings_alongside (consoles.pause ms)
  | none => exact awaitUser_alongside consoles

private theorem perform_alongside (lets : Logging.Filter) (command : Command) :
    Alongside (Board.Paired (Rig.seen f)) (perform fs' console' lets command)
      (perform fs console lets command) := by
  cases command with
  | platform =>
    refine .get_bind fun s t related => ?_
    rw [related.1.platform]
    exact say_alongside consoles _
  | modules =>
    refine .get_bind fun s t related => ?_
    have lines (kind : ModuleKind) : moduleLine t.1 kind = moduleLine s.1 kind := by
      unfold moduleLine
      rw [related.1.backend?_eq]
    simp only [lines]
    exact (say_alongside consoles _).bind fun _ => (say_alongside consoles _).bind fun _ =>
      (say_alongside consoles _).bind fun _ => .pure ()
  | config => exact .pure ()
  | readAnalog pin count interval scale => exact readAnalog_alongside m consoles _ _ _ _
  | readLine line => exact readLine_alongside m consoles line
  | writeLine line high => exact writeLine_alongside m lets line high
  | runPulse c duration => exact runPulse_alongside m consoles c duration

omit consoles in
private theorem endBoard_alongside :
    Alongside (Board.Paired (Rig.seen f)) (endBoard fs') (endBoard fs) := by
  have ends (refs : List ModuleRef) :
      Alongside (Board.Paired (Rig.seen f)) (endModules fs' refs) (endModules fs refs) := by
    induction refs with
    | nil => exact .pure ()
    | cons ref refs ih => exact (onRig_alongside (Rig.dispose_mirrors m ref)).bind fun _ => ih
  refine .get_bind fun s t related => ?_
  have same : t.1.builtModules = s.1.builtModules :=
    congrArg (fun installed => installed.pairs.map (·.2.module)) related.1.installed
  rw [same]
  exact ends _

private theorem performAt_mirrors {b' : Board (Rig σ F)} {b : Board (Rig φ F)}
    (boards : b'.SeenAs (Rig.seen f) b) (lets : Logging.Filter) (command : Command) :
    Mirrors f id (performAt fs' console' lets b' command) (performAt fs console lets b command) := by
  intro s
  obtain ⟨answer, events, _, rig⟩ := (perform_alongside m consoles lets command).followedBy
    (endBoard_alongside m) (b', { world := { files := s } }) (b, { world := { files := f s } })
    ⟨boards, rfl⟩
  simp only [performAt]
  rw [← answer, ← events, rig]
  cases (Action.followedBy (perform fs' console' lets command) (endBoard fs')
    (b', { world := { files := s } })).answer <;> rfl

/-! ### Invocations -/

omit m in
private theorem startLogging_mirrors (vars : List (String × String)) (c : Configuration) :
    Mirrors f id (startLogging console' vars c) (startLogging console vars c) := by
  unfold startLogging
  rw [consoles.logger]
  exact Mirrors.ofExcept _

private theorem Invocation.run_mirrors (i : Invocation) (vars : List (String × String)) :
    Mirrors f id (i.run fs' console' vars) (i.run fs console vars) := by
  refine Mirrors.bind (m.configure i vars) fun c => ?_
  refine Mirrors.bind (startLogging_mirrors consoles vars c) fun lets => ?_
  have works (command : Command) : Mirrors f id
      (Action.mapError (Complaint.refused ∘ Refusal.fault) (Board.ofConfiguration fs' c) >>=
        fun b => performAt fs' console' lets b command)
      (Action.mapError (Complaint.refused ∘ Refusal.fault) (Board.ofConfiguration fs c) >>=
        fun b => performAt fs console lets b command) := by
    rw [Board.ofConfiguration_bind, Board.ofConfiguration_bind]
    exact Mirrors.bind ((Board.announce_mirrors m c).mapError _) fun platform =>
      performAt_mirrors m consoles (Board.ofPlatform_seenAs f c platform) lets command
  cases i.command with
  | config =>
    simp only [id]
    cases c.toToml? with
    | some text => exact Mirrors.modify (consoles.print text)
    | none => exact Mirrors.fail _
  | _ => exact works _

/-- A command line is reported the same, and leaves in the view what it leaves. -/
theorem run_seen (args : List String) (vars : List (String × String)) (s : σ) :
    run fs console args vars (f s) =
      Prod.map id f (run fs' console' args vars s) := by
  unfold run
  cases Invocation.read args with
  | error stop =>
    cases stop with
    | help => exact congrArg (Prod.mk _) (consoles.print usage s)
    | misuse => rfl
  | ok i =>
    simp only [Invocation.run_mirrors m consoles i vars s]
    cases (i.run fs' console' vars s).answer <;> rfl

end Commands

end CommandLine

end Peripherals

import Peripherals.Adc.Scaled
import Peripherals.Board.Configured
import Peripherals.CommandLine.Complaint
import Peripherals.CommandLine.Console
import Peripherals.CommandLine.Invocation
import Peripherals.Configuration.Written
import Peripherals.Gpio.Switch
import Peripherals.Logging
import Peripherals.Pwm.Parameters
/-!
Carrying out an invocation: the configuration is loaded and checked, logging starts as it asks, a board is
made from it, and the command works on a resource of the board. However a command ends, its resource is given back, and
then every module of the board is ended.
-/

set_option autoImplicit false

namespace Peripherals.CommandLine

section

variable {φ F : Type} (fs : FileSystem φ F) (console : Console φ)

abbrev Work (φ F α : Type) : Type :=
  Action Complaint (Board (Rig φ F) × Rig φ F) α

def filesLens : Lens (Board (Rig φ F) × Rig φ F) φ :=
  Lens.snd.comp (Rig.worldLens.comp World.filesLens)

def atBoard {α : Type} (x : Action Fault (Board (Rig φ F) × Rig φ F) α) : Work φ F α :=
  Action.mapError (Complaint.refused ∘ Refusal.fault) x

def onRig {α : Type} (x : Action Fault (Rig φ F) α) : Work φ F α :=
  atBoard (Action.zoom Lens.snd x)

def answerOf {α : Type} (x : Except Refusal α) : Work φ F α :=
  Action.ofExcept (x.mapError .refused)

def surroundings (f : φ → φ) : Work φ F Unit :=
  Action.zoom filesLens (Action.modify f)

def awaitUser : Work φ F Unit :=
  Action.mapError Complaint.unnoticed (Action.zoom filesLens console.hold)

def say (line : String) : Work φ F Unit :=
  surroundings (console.print (line ++ "\n"))

def readSamples (serial : Nat) (x : Adc.Scaled) (interval : UInt64) : Nat → Work φ F Unit
  | 0 => pure ()
  | n + 1 => do
    let value ← answerOf (← onRig (Rig.onAdc fs serial fun _ d => Action.attempt (x.read d)))
    say console (Decimal.Style.display.write value)
    if n > 0 ∧ interval > 0 then surroundings (console.pause interval)
    readSamples serial x interval n

def readAnalog (pin count : UInt32) (interval : UInt64) (scale : Float) : Work φ F Unit := do
  let m ← atBoard (Board.requestKind .adc)
  let c := Adc.Config.ofPin pin
  let h ← onRig (Rig.onAdc fs m.serial fun _ d => d.request c)
  let x : Adc.Scaled := ⟨⟨h, c, false⟩, scale⟩
  Action.followedBy (readSamples fs console m.serial x interval count.toNat)
    (onRig (Rig.onAdc fs m.serial fun _ d => x.pin.drop d.device))
  atBoard (Board.release m)

def readLine (line : UInt32) : Work φ F Unit := do
  let m ← atBoard (Board.requestKind .gpio)
  let c := Gpio.Config.input line
  let h ← onRig (Rig.onGpio fs m.serial fun _ d => d.request c)
  let x : Owned Gpio.Config := ⟨h, c, false⟩
  let drop : Work φ F Unit := onRig (Rig.onGpio fs m.serial fun _ d => x.drop d.device)
  let level ← Action.attempt (onRig (Rig.onGpio fs m.serial fun _ d => d.level h))
  match level with
  | .error e => do
    drop
    Action.fail e
  | .ok level => do
    say console (if level then "1" else "0")
    match ← Action.attempt (onRig (Rig.onGpio fs m.serial fun _ d => x.release d.device)) with
    | .ok _ => atBoard (Board.release m)
    | .error e => do
      drop
      Action.fail e

/-- Reports that a line was written. Its level is read back for the report alone, so where the report is
not let through nobody reads it. -/
def reportWritten (lets : Logging.Filter) (serial : Nat) (x : Gpio.Switch) : Work φ F Unit := do
  if lets .info then
    let on ← answerOf (← onRig (Rig.onGpio fs serial fun _ d => Action.attempt (x.isOn d "value")))
    Action.note ⟨.info, "GPIO written", [("id", Text.number x.pin.settings.line.toNat),
      ("level", if on then "true" else "false")]⟩

def writeLine (lets : Logging.Filter) (line : UInt32) (high : Bool) : Work φ F Unit := do
  let m ← atBoard (Board.requestKind .gpio)
  let c := Gpio.Config.output line high
  let h ← onRig (Rig.onGpio fs m.serial fun _ d => d.request c)
  let x : Gpio.Switch := ⟨⟨h, c, false⟩⟩
  let operate : Work φ F Unit := do
    answerOf (← onRig (Rig.onGpio fs m.serial fun _ d => Action.attempt (x.turn d "value" high)))
    reportWritten fs lets m.serial x
  Action.followedBy operate (onRig (Rig.onGpio fs m.serial fun _ d => x.pin.drop d.device))
  atBoard (Board.release m)

def runPulse (c : Pwm.Config) (duration : Option UInt64) : Work φ F Unit := do
  let m ← atBoard (Board.requestKind .pwm)
  let h ← onRig (Rig.onPwm fs m.serial fun _ d => d.request c)
  let x : Pwm.Parameters := ⟨⟨h, ⟨c, false⟩, false⟩⟩
  let operate : Work φ F Unit := do
    answerOf (← onRig (Rig.onPwm fs m.serial fun _ d =>
      Action.attempt (x.setValue d "enabled" (.bool true))))
    Action.note ⟨.info, "PWM running", [("pin", Text.number c.pin.toNat),
      ("period", Text.number c.period.toNat), ("duty", Text.number c.duty.toNat)]⟩
    match duration with
    | some ms => surroundings (console.pause ms)
    | none => awaitUser console
  Action.followedBy operate (onRig (Rig.onPwm fs m.serial fun _ d => x.pin.drop d.device))
  atBoard (Board.release m)

def moduleLine {τ : Type} (b : Board τ) (kind : ModuleKind) : String :=
  kind.name ++ " " ++ (b.backend? kind).getD "-"

def perform (lets : Logging.Filter) : Command → Work φ F Unit
  | .platform => do say console (← Action.get).1.platform.name
  | .modules => do
    let b := (← Action.get).1
    ModuleKind.all.forM fun kind => say console (moduleLine b kind)
  | .config => pure ()
  | .readAnalog pin count interval scale => readAnalog fs console pin count interval scale
  | .readLine line => readLine fs console line
  | .writeLine line high => writeLine fs lets line high
  | .runPulse c duration => runPulse fs console c duration

def endModules : List ModuleRef → Work φ F Unit
  | [] => pure ()
  | m :: ms => do
    onRig (Rig.dispose fs m)
    endModules ms

def endBoard : Work φ F Unit := do
  endModules fs (← Action.get).1.builtModules

/-- Carries out a command at a board and ends the board, whatever has happened. -/
def performAt (lets : Logging.Filter) (board : Board (Rig φ F)) (command : Command) :
    Action Complaint φ Unit := fun s =>
  let o := Action.followedBy (perform fs console lets command) (endBoard fs)
    (board, { world := { files := s } })
  ⟨o.answer, o.events, o.state.2.world.files⟩

def configure (i : Invocation) (vars : List (String × String)) :
    Action Complaint φ Configuration := do
  let c ← Action.mapError (Complaint.notLoaded i.file) (Configuration.load fs i.file vars)
  let c := match i.logLevel with
    | some level => { c with application := { c.application with logLevel := level } }
    | none => c
  Action.ofExcept (c.validate.mapError .invalid)
  return c

/-- Starts logging as a configuration asks. The answer is what is let through from then on. -/
def startLogging (vars : List (String × String)) (c : Configuration) :
    Action Complaint φ Logging.Filter :=
  Action.ofExcept ((console.logger.startFor vars c).mapError .noLogging)

def Invocation.run (i : Invocation) (vars : List (String × String)) :
    Action Complaint φ Unit := do
  let c ← configure fs i vars
  let lets ← startLogging console vars c
  match i.command with
  | .config =>
    match c.toToml? with
    | some text => Action.modify (console.print text)
    | none => Action.fail .unwritable
  | command =>
    let board ← Action.mapError (Complaint.refused ∘ Refusal.fault) (Board.ofConfiguration fs c)
    performAt fs console lets board command

end

/-- How the program ended. -/
structure Report where
  code : UInt32
  complaint : String := ""

def usage : String := "Usage: artik [--config FILE] [--log-level LEVEL] COMMAND

Commands:
  platform                      the detected board
  modules                       the modules of the board and their backends
  config                        the effective configuration
  adc read PIN [-n COUNT] [--interval-ms MS] [--scale FACTOR]
  gpio read LINE
  gpio write LINE 0|1
  pwm set PIN --period NS --duty NS [--polarity normal|inversed] [--duration-ms MS]
"

/-- Carries out a command line: code 0 for success, 2 for words that make no sense, and the code of the
complaint for a failure. -/
def run {φ F : Type} (fs : FileSystem φ F) (console : Console φ) (args : List String)
    (vars : List (String × String)) (s : φ) : Report × φ :=
  match Invocation.read args with
  | .error .help => (⟨0, ""⟩, console.print usage s)
  | .error .misuse => (⟨2, usage⟩, s)
  | .ok i =>
    let o := i.run fs console vars s
    match o.answer with
    | .ok () => (⟨0, ""⟩, o.state)
    | .error c => (⟨c.code, c.text⟩, o.state)

end Peripherals.CommandLine

import Peripherals.CommandLine.Options
import Peripherals.Decimal.Reading
import Peripherals.Path
import Peripherals.Pwm.Config
import Peripherals.Setting.Load
/-!
Invocations: what a command line asks for. The options of the whole program may stand at any level;
the innermost counts.
-/

set_option autoImplicit false

namespace Peripherals.CommandLine

/-- What the program is to do. -/
inductive Command where
  | platform
  | modules
  | config
  | readAnalog (pin count : UInt32) (interval : UInt64) (scale : Float)
  | readLine (line : UInt32)
  | writeLine (line : UInt32) (high : Bool)
  /-- Without a duration the output runs until the user stops it. -/
  | runPulse (config : Pwm.Config) (duration : Option UInt64)

structure Invocation where
  command : Command
  file : Path := Configuration.defaultFile
  logLevel : Option String := none

/-- Options that may stand at any level. A file has a name. -/
def sharedFlags : List Flag :=
  [{ long := "config", accepts := (· != "") }, { long := "log-level" }]

/-- The commands to choose from behind those that were chosen. -/
def choices : List String → List String
  | [] => ["platform", "modules", "config", "adc", "gpio", "pwm"]
  | ["adc"] => ["read"]
  | ["gpio"] => ["read", "write"]
  | ["pwm"] => ["set"]
  | _ => []

/-- Words that go on with commands to choose from. The word for help may be the last of them. -/
def isTopic (chosen : List String) : List String → Bool
  | [] => true
  | w :: ws =>
    if w ∈ choices chosen then isTopic (chosen ++ [w]) ws
    else w == "help" && ws.isEmpty && !(choices chosen).isEmpty

/-- A number of 32 bits; a sign may stand in front. -/
def word32? (s : String) : Option UInt32 := do
  let n ← Text.signed? (Nat.pow 2 63) s.toList
  if 0 ≤ n ∧ n < Nat.pow 2 32 then some n.toNat.toUInt32 else none

def word64? (s : String) : Option UInt64 :=
  (Text.unsigned? (Nat.pow 2 64) s.toList).map Nat.toUInt64

def level? (s : String) : Option Bool := do
  let n ← Text.signed? (Nat.pow 2 63) s.toList
  if n = 0 then some false else if n = 1 then some true else none

def orMisuse {α : Type} : Option α → Except Stop α
  | some a => .ok a
  | none => .error .misuse

def Level.option? {α : Type} (l : Level) (name : String) (read : String → Option α) :
    Except Stop (Option α) :=
  match l.given.lookup name with
  | none => .ok none
  | some s => orMisuse ((read s).map some)

def Level.required {α : Type} (l : Level) (name : String) (read : String → Option α) :
    Except Stop α := do
  orMisuse (← l.option? name read)

def spells {α : Type} (read : String → Option α) (s : String) : Bool :=
  (read s).isSome

/-- The last level of a command, with all of its words. -/
def readLeaf (flags : List Flag) (words : List (String → Bool)) (args : List String) :
    Except Stop Level := do
  let g : Grammar := { flags := sharedFlags ++ flags, words }
  let l ← g.read args
  if l.words.length = words.length then .ok l else .error .misuse

/-- A level that has to choose a command behind those that were chosen. -/
def readBranch (chosen : List String) (args : List String) :
    Except Stop (Level × String × List String) := do
  let g : Grammar :=
    { flags := sharedFlags, commands := choices chosen, isTopic := isTopic chosen }
  let l ← g.read args
  match l.chosen with
  | some (name, rest) => .ok (l, name, rest)
  | none => .error .misuse

def Level.word {α : Type} (l : Level) (n : Nat) (read : String → Option α) : Except Stop α :=
  orMisuse (l.words[n]?.bind read)

def factor? (s : String) : Option Float :=
  Decimal.float? s.toList

def readAnalogCommand (args : List String) : Except Stop (Command × List Level) := do
  let (branch, _, rest) ← readBranch ["adc"] args
  let l ← readLeaf [{ long := "count", letter := some 'n', accepts := spells word32? },
    { long := "interval-ms", accepts := spells word64? },
    { long := "scale", accepts := spells factor? }] [spells word32?] rest
  let pin ← l.word 0 word32?
  let count ← l.option? "count" word32?
  let interval ← l.option? "interval-ms" word64?
  let scale ← l.option? "scale" factor?
  return (.readAnalog pin (count.getD 1) (interval.getD 0) (scale.getD 1.0), [l, branch])

def readLineCommand (args : List String) : Except Stop (Command × List Level) := do
  let (branch, name, rest) ← readBranch ["gpio"] args
  if name == "read" then
    let l ← readLeaf [] [spells word32?] rest
    let line ← l.word 0 word32?
    return (.readLine line, [l, branch])
  else
    let l ← readLeaf [] [spells word32?, spells level?] rest
    let line ← l.word 0 word32?
    let high ← l.word 1 level?
    return (.writeLine line high, [l, branch])

def readPulseCommand (args : List String) : Except Stop (Command × List Level) := do
  let (branch, _, rest) ← readBranch ["pwm"] args
  let l ← readLeaf [{ long := "period", accepts := spells word32? },
    { long := "duty", accepts := spells word32? },
    { long := "polarity", accepts := spells Pwm.Polarity.ofWord? },
    { long := "duration-ms", accepts := spells word64? }] [spells word32?] rest
  let pin ← l.word 0 word32?
  let period ← l.required "period" word32?
  let duty ← l.required "duty" word32?
  let polarity ← l.option? "polarity" Pwm.Polarity.ofWord?
  let duration ← l.option? "duration-ms" word64?
  let config := (Pwm.Config.ofPin pin period duty).withPolarity (polarity.getD .normal)
  return (.runPulse config duration, [l, branch])

def readBareCommand (c : Command) (args : List String) : Except Stop (Command × List Level) := do
  let l ← readLeaf [] [] args
  return (c, [l])

def readCommand (name : String) (args : List String) : Except Stop (Command × List Level) :=
  match name with
  | "platform" => readBareCommand .platform args
  | "modules" => readBareCommand .modules args
  | "config" => readBareCommand .config args
  | "adc" => readAnalogCommand args
  | "gpio" => readLineCommand args
  | _ => readPulseCommand args

def Invocation.read (args : List String) : Except Stop Invocation := do
  let (top, name, rest) ← readBranch [] args
  let (command, levels) ← readCommand name rest
  let given := levels.flatMap (·.given) ++ top.given
  return {
    command
    file := match given.lookup "config" with
      | some p => ⟨p⟩
      | none => Configuration.defaultFile
    logLevel := given.lookup "log-level" }

end Peripherals.CommandLine

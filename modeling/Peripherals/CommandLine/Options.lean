/-!
The words of a command line, level by level: options with their values, plain words, and the word that
chooses a command, behind which the next level begins.
-/

set_option autoImplicit false

namespace Peripherals.CommandLine

/-- An option that takes a value. -/
structure Flag where
  long : String
  letter : Option Char := none
  accepts : String → Bool := fun _ => true

/-- What one level of a command line may hold. -/
structure Grammar where
  flags : List Flag
  /-- What makes sense as a plain word, word by word. -/
  words : List (String → Bool) := []
  /-- The commands, one of which opens the next level. A level with commands has no plain words. -/
  commands : List String := []
  /-- The words behind the word for help that name a command. -/
  isTopic : List String → Bool := fun _ => false

/-- Why a command line is not carried out. -/
inductive Stop where
  | help
  | misuse
  deriving DecidableEq, Repr

/-- What one level of a command line holds. -/
structure Level where
  given : List (String × String) := []
  words : List String := []
  chosen : Option (String × List String) := none

/-- What one argument is. -/
inductive Token where
  | wordsOnly
  | help
  | option (flag : Flag) (value : Option String)
  | unknown
  | word (s : String)

/-- The part behind an equals sign, if there is one, and the part in front of it. -/
def splitValue (s : List Char) : String × Option String :=
  match s.span (· != '=') with
  | (name, _ :: value) => (String.ofList name, some (String.ofList value))
  | (name, []) => (String.ofList name, none)

/-- The value that follows the letter of an option in the same argument. -/
def attached : List Char → Option String
  | [] => none
  | '=' :: s => some (String.ofList s)
  | s => some (String.ofList s)

def letterToken (flags : List Flag) (c : Char) (rest : List Char) : Token :=
  match flags.find? (·.letter == some c) with
  | some f => .option f (attached rest)
  | none => if c == 'h' then .help else .unknown

def longToken (flags : List Flag) (s : List Char) : Token :=
  let (name, value) := splitValue s
  match flags.find? (·.long == name) with
  | some f => .option f value
  | none => if name == "help" && value.isNone then .help else .unknown

def token (flags : List Flag) (arg : String) : Token :=
  match arg.toList with
  | ['-', '-'] => .wordsOnly
  | '-' :: '-' :: s => longToken flags s
  | '-' :: c :: s => letterToken flags c s
  | _ => .word arg

/-- An argument that cannot be the value of an option in front of it. -/
def isOption (arg : String) : Bool :=
  match arg.toList with
  | '-' :: _ :: _ => true
  | _ => false

/-- Adds an option to a level. No option is given twice, and none without sense. -/
def Level.withOption (l : Level) (f : Flag) (value : String) : Except Stop Level :=
  if (l.given.lookup f.long).isNone && f.accepts value then
    .ok { l with given := (f.long, value) :: l.given }
  else .error .misuse

/-- Adds a plain word to a level that has room for it. -/
def Level.withWord (l : Level) (words : List (String → Bool)) (w : String) : Except Stop Level :=
  match words[l.words.length]? with
  | some accepts => if accepts w then .ok { l with words := l.words ++ [w] } else .error .misuse
  | none => .error .misuse

/-- Goes on with a level. What stands in front of the arguments has been read and makes sense, so that
help is given only where all in front of the wish for it makes sense. -/
def Grammar.readFrom (g : Grammar) (l : Level) : List String → Except Stop Level
  | [] => .ok l
  | arg :: rest =>
    match token g.flags arg with
    | .wordsOnly => rest.foldlM (fun l w => l.withWord g.words w) l
    | .help => .error .help
    | .unknown => .error .misuse
    | .option f (some value) => do
      let l ← l.withOption f value
      g.readFrom l rest
    | .option f none =>
      match rest with
      | [] => .error .misuse
      | value :: rest =>
        if isOption value then .error .misuse
        else do
          let l ← l.withOption f value
          g.readFrom l rest
    | .word w =>
      if g.commands.isEmpty then do
        let l ← l.withWord g.words w
        g.readFrom l rest
      else if w ∈ g.commands then .ok { l with chosen := some (w, rest) }
      else if w == "help" && g.isTopic rest then .error .help
      else .error .misuse

def Grammar.read (g : Grammar) (args : List String) : Except Stop Level :=
  g.readFrom {} args

end Peripherals.CommandLine

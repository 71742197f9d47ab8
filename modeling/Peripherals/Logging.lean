import Peripherals.Configuration.Basic
import Peripherals.Event
import Peripherals.Text.Blank
/-!
Logging: settings, as they follow from words or from a configuration, and how a logger is put in place
with them. The service that writes events is not ours; a `Facility` says what it does when it is asked.
-/

set_option autoImplicit false

namespace Peripherals.Logging

/-- How events are laid out. -/
inductive Layout where
  | pretty | compact | json
  deriving DecidableEq, Repr

namespace Layout

def all : List Layout :=
  [.pretty, .compact, .json]

def name : Layout → String
  | .pretty => "pretty"
  | .compact => "compact"
  | .json => "json"

def label : Layout → String
  | .pretty => "Pretty"
  | .compact => "Compact"
  | .json => "Json"

end Layout

/-- What is logged, and how. -/
structure Settings where
  level : Level := .info
  layout : Layout := .pretty
  spanEvents : Bool := false
  fileAndLine : Bool := false
  threadNames : Bool := false
  ansi : Bool := true
  deriving DecidableEq, Repr

/-- The value whose name a word is, in any case. -/
def named? {α : Type} (all : List α) (name : α → String) (word : String) : Option α :=
  all.find? (fun a => Text.sameLetters (name a) word)

def readLevel (word : String) : Except String Level :=
  match named? Level.all Level.name word with
  | some l => .ok l
  | none => .error ("Invalid log level '" ++ word ++ "'. Must be one of: " ++
      String.intercalate ", " (Level.all.map Level.name))

def readLayout (word : String) : Except String Layout :=
  match named? Layout.all Layout.name word with
  | some l => .ok l
  | none => .error ("Invalid log format '" ++ word ++ "'. Must be one of: " ++
      String.intercalate ", " (Layout.all.map Layout.name))

def Settings.ofConfiguration (c : Configuration) : Except String Settings := do
  let level ← readLevel c.application.logLevel
  let layout ← readLayout c.application.logFormat
  return {
    level, layout
    spanEvents := c.application.logSpanEvents
    fileAndLine := c.application.logFileAndLine
    threadNames := c.application.logThreadNames }

/-- What a logger does with an event. Compact lines have no colours, and for objects the writer decides. -/
structure Layer where
  layout : Layout
  /-- Events for the beginning and the end of a span. -/
  spanEvents : Bool
  file : Bool
  lineNumber : Bool
  threadNames : Bool
  ansi : Option Bool
  deriving DecidableEq, Repr

def Settings.layer (s : Settings) : Layer where
  layout := s.layout
  spanEvents := s.spanEvents
  file := s.fileAndLine
  lineNumber := s.fileAndLine
  threadNames := s.threadNames
  ansi := match s.layout with
    | .pretty => some s.ansi
    | .compact => some false
    | .json => none

/-- The levels of the program's own events that are let through. -/
abbrev Filter : Type :=
  Level → Bool

/-- A level lets through what matters as much or more. -/
def upTo (l : Level) : Filter :=
  fun e => Level.all.idxOf l ≤ Level.all.idxOf e

def readFilter? (word : String) : Option Filter :=
  if Text.sameLetters "off" word then some fun _ => false
  else (named? Level.all Level.name word).map upTo

/-- The service that writes events. -/
structure Facility where
  filter? : String → Option Filter
  /-- Reads directives, without those that make no sense. -/
  filter : String → Filter
  /-- Puts a logger in place, or says why it cannot. Beside this, what is let through from then on. -/
  place : Layer → Filter → Except String Unit × Filter

/-- What is said where a logger is in place already. -/
def placedPhrases : List String :=
  ["already been set", "already initialized"]

def tolerate : Except String Unit → Except String Unit
  | .ok () => .ok ()
  | .error e =>
    if placedPhrases.any fun phrase => Text.occursIn phrase.toList e.toList then .ok ()
    else .error ("Failed to initialize tracing: " ++ e)

namespace Facility

variable (f : Facility) (vars : List (String × String))

/-- What is to be let through. The variable `RUST_LOG` goes before the level. -/
def filterFor (level : Level) : Filter :=
  ((vars.lookup "RUST_LOG").bind f.filter?).getD (f.filter level.name)

/-- Starts logging. The answer is what is let through from then on. -/
def start (s : Settings) : Except String Filter := do
  let placed := f.place s.layer (f.filterFor vars s.level)
  tolerate placed.1
  return placed.2

def startFor (c : Configuration) : Except String Filter := do
  f.start vars (← Settings.ofConfiguration c)

/-- A facility with a logger in place, which lets nothing through. -/
def occupied : Facility where
  filter? _ := none
  filter _ _ := false
  place _ _ := (.error "a global default trace dispatcher has already been set", fun _ => false)

/-- A facility that reads no directives but single names of levels and the word for none. -/
def plain : Facility where
  filter? := readFilter?
  filter word := (readFilter? word).getD (upTo .error)
  place _ filter := (.ok (), filter)

end Facility

def start (s : Settings) : Except String Unit :=
  (Facility.occupied.start [] s).map fun _ => ()

/-- Starts logging as a configuration asks, where a logger is in place. -/
def startFor (c : Configuration) : Except String Unit :=
  (Facility.occupied.startFor [] c).map fun _ => ()

end Peripherals.Logging

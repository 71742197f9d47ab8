import Peripherals.CommandLine.Run
/-!
Transcripts: a file system that knows the answers of the past, and a console that notes what it has
to do. A run that asks for more leaves its question and does nothing that counts from there on; when
the answer is added to the transcript, the same run gets one step further.
-/

set_option autoImplicit false

namespace Peripherals

namespace Transcript

/-- A question to the system. Open files are numbered. -/
inductive Request where
  | locate (p : Path)
  | readFile (p : Path)
  | writeFile (p : Path) (bytes : List UInt8)
  | openRead (p : Path)
  | openUpdate (p : Path)
  | rewind (file : Nat)
  | readAll (file : Nat)
  | readUpTo (file limit : Nat)
  | overwrite (file : Nat) (bytes : List UInt8)
  | control (file : Nat) (request : UInt64)

/-- Something to be done at the console. -/
inductive Deed where
  | print (text : String)
  | pause (milliseconds : UInt64)
  | hold

/-- An answer of the system. -/
inductive Reply where
  | failed (e : IoError)
  | kind (k : FileKind)
  | bytes (b : List UInt8)
  | file (number : Nat)
  | done

end Transcript

/-- The answers that are left, the question that none of them answers, and the deeds in front of it,
the last one first. -/
structure Transcript where
  replies : List Transcript.Reply
  question : Option Transcript.Request := none
  deeds : List Transcript.Deed := []

namespace Transcript

/-- The error of a step behind a question without an answer; the run is repeated before anyone sees
it. -/
def unanswered : IoError :=
  .plain .other

def ask (r : Request) : Action IoError Transcript Reply := fun t =>
  match t.question, t.replies with
  | some _, _ => ⟨.error unanswered, [], t⟩
  | none, [] => ⟨.error unanswered, [], { t with question := some r }⟩
  | none, .failed e :: rest => ⟨.error e, [], { t with replies := rest }⟩
  | none, reply :: rest => ⟨.ok reply, [], { t with replies := rest }⟩

def askKind (r : Request) : Action IoError Transcript FileKind := do
  match ← ask r with
  | .kind k => return k
  | _ => Action.fail unanswered

def askBytes (r : Request) : Action IoError Transcript (List UInt8) := do
  match ← ask r with
  | .bytes b => return b
  | _ => Action.fail unanswered

def askFile (r : Request) : Action IoError Transcript Nat := do
  match ← ask r with
  | .file n => return n
  | _ => Action.fail unanswered

def askDone (r : Request) : Action IoError Transcript Unit := do
  let _ ← ask r

def about {α : Type} (question : Nat → Action IoError Transcript α) :
    Action IoError (Transcript × Nat) α := fun (t, n) =>
  let o := question n t
  ⟨o.answer, o.events, (o.state, n)⟩

def fileSystem : FileSystem Transcript Nat where
  locate p := askKind (.locate p)
  readFile p := askBytes (.readFile p)
  writeFile p bytes := askDone (.writeFile p bytes)
  openRead p := askFile (.openRead p)
  openUpdate p := askFile (.openUpdate p)
  rewind := about fun n => askDone (.rewind n)
  readAll := about fun n => askBytes (.readAll n)
  readUpTo limit := about fun n => askBytes (.readUpTo n limit)
  overwrite bytes := about fun n => askDone (.overwrite n bytes)
  control request := about fun n => askDone (.control n request)

/-- Notes a deed, unless a question stands in front of it. -/
def note (d : Deed) (t : Transcript) : Transcript :=
  if t.question.isNone then { t with deeds := d :: t.deeds } else t

def console : Console Transcript where
  print text := note (.print text)
  pause ms := note (.pause ms)
  hold := Action.modify (note .hold)
  logger := .plain

end Transcript

end Peripherals

import Peripherals.CommandLine.Transcript
/-!
The program: fetches the answers that a run asks for, one after the other, until the run is complete.
-/

set_option autoImplicit false

namespace Peripherals.Program

open Transcript (Deed Reply Request)

def errorNumber : IO.Error → Nat
  | .alreadyExists _ n _ | .otherError n _ | .resourceBusy n _ | .resourceVanished n _
  | .unsupportedOperation n _ | .hardwareFault n _ | .unsatisfiedConstraints n _
  | .illegalOperation n _ | .protocolError n _ | .timeExpired n _ | .interrupted _ n _
  | .noFileOrDirectory _ n _ | .invalidArgument _ n _ | .permissionDenied _ n _
  | .resourceExhausted _ n _ | .inappropriateType _ n _ | .noSuchThing _ n _ => n.toNat
  | .unexpectedEof | .userError _ => 5

/-- Waits in steps that fit the system's timer. -/
partial def pause (ms : UInt64) : IO Unit := do
  let step : UInt64 := 1000000
  if ms ≤ step then IO.sleep ms.toUInt32
  else
    IO.sleep step.toUInt32
    pause (ms - step)

/-- Reads at most so many bytes, fewer only at the end of the file. -/
partial def readUpTo (h : IO.FS.Handle) (limit : Nat) (known : ByteArray) : IO ByteArray := do
  if known.size ≥ limit then return known
  let more ← h.read (limit - known.size).toUSize
  if more.isEmpty then return known
  readUpTo h limit (known ++ more)

abbrev Files : Type := IO.Ref (Array IO.FS.Handle)

def Files.keep (files : Files) (h : IO.FS.Handle) : IO Reply := do
  let known ← files.get
  files.set (known.push h)
  return .file known.size

def Files.use (files : Files) (n : Nat) (work : IO.FS.Handle → IO Reply) : IO Reply := do
  match (← files.get)[n]? with
  | some h => work h
  | none => return .failed (.system 9)

def locate (p : Path) : IO Reply := do
  let real ← IO.FS.realPath p.text
  match (← real.metadata).type with
  | .dir => return .kind .directory
  | .file => return .kind .file
  | _ => return .kind .other

/-- Writes and sees to it that the system has taken what was written. -/
def put (h : IO.FS.Handle) (bytes : List UInt8) : IO Reply := do
  h.write bytes.toByteArray
  h.flush
  return .done

/-- Does what is asked for. Control requests need a call that is not available here; they are answered
as by a plain file. -/
def obey (files : Files) : Request → IO Reply
  | .locate p => locate p
  | .readFile p => do return .bytes (← IO.FS.readBinFile p.text).toList
  | .writeFile p bytes => do put (← IO.FS.Handle.mk p.text .write) bytes
  | .openRead p => do files.keep (← IO.FS.Handle.mk p.text .read)
  | .openUpdate p => do files.keep (← IO.FS.Handle.mk p.text .readWrite)
  | .rewind n => files.use n fun h => do
    h.rewind
    return .done
  | .readAll n => files.use n fun h => do return .bytes (← h.readBinToEnd).toList
  | .readUpTo n limit => files.use n fun h => do
    return .bytes (← readUpTo h limit .empty).toList
  | .overwrite n bytes => files.use n fun h => put h bytes
  | .control _ _ => return .failed (.system IoError.notATerminal)

def act : Deed → IO Unit
  | .print text => do
    let out ← IO.getStdout
    out.putStr text
    out.flush
  | .pause ms => pause ms
  | .hold => do
    let _ ← (← IO.getStdin).getLine

/-- Repeats a run with ever more answers until it asks no more. So many deeds are done already. -/
partial def complete (args : List String) (vars : List (String × String)) (files : Files)
    (replies : Array Reply) (finished : Nat) : IO UInt32 := do
  let (report, t) := CommandLine.run Transcript.fileSystem Transcript.console args vars
    { replies := replies.toList }
  (t.deeds.reverse.drop finished).forM act
  match t.question with
  | none =>
    (← IO.getStderr).putStr report.complaint
    return report.code
  | some r =>
    let reply ←
      try obey files r
      catch e => pure (.failed (.system (errorNumber e)))
    complete args vars files (replies.push reply) t.deeds.length

/-- A variable of the environment, from its line in the list of all. -/
def assignment? (line : List UInt8) : Option (String × String) := do
  let text ← Text.ofBytes? line
  match text.toList.span (· != '=') with
  | (name, _ :: value) => some (String.ofList name, String.ofList value)
  | (_, []) => none

def environment : IO (List (String × String)) := do
  let bytes ← try IO.FS.readBinFile "/proc/self/environ" catch _ => pure .empty
  return (bytes.toList.splitOn 0).filterMap assignment?

end Peripherals.Program

def main (args : List String) : IO UInt32 := do
  let files ← IO.mkRef #[]
  Peripherals.Program.complete args (← Peripherals.Program.environment) files #[] 0

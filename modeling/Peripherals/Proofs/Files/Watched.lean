import Peripherals.Proofs.Files.Seen
/-!
File systems under watch, which write down what is looked up, opened and written by path, and what came
of it. Main statements: watching changes nothing else, and steps one after the other add their logs.
-/

set_option autoImplicit false

namespace Peripherals

open Peripherals.Action (Mirrors)

variable {ε φ F C α β : Type}

def failure? : Except ε α → Option ε
  | .ok _ => none
  | .error e => some e

private theorem failure?_mapError {ε' : Type} (f : ε → ε') (answer : Except ε α) :
    failure? (answer.mapError f) = (failure? answer).map f := by
  cases answer <;> rfl

/-- What was asked of a file system by path, and what came of it. -/
inductive FileEvent where
  | looked (path : Path) (found : Bool)
  | opened (path : Path) (failure? : Option IoError)
  | wrote (path : Path) (bytes : List UInt8) (failure? : Option IoError)
  deriving DecidableEq

/-- All that was asked of a file system, the oldest first. -/
abbrev FileLog := List FileEvent

namespace FileEvent

def path : FileEvent → Path
  | looked path _ | opened path _ | wrote path _ _ => path

def writeFault? : FileEvent → Option Fault
  | wrote path _ failure? => failure?.map (Fault.ofIo path)
  | looked _ _ | opened _ _ => none

def fault? : FileEvent → Option Fault
  | wrote path _ failure? | opened path failure? => failure?.map (Fault.ofIo path)
  | looked _ _ => none

end FileEvent

namespace FileSystem

/-- Writes down an event with the answer of an action. -/
def noting (event : Except IoError α → FileEvent) (x : Action IoError φ α) :
    Action IoError (φ × FileLog) α := fun p =>
  let r := x p.1
  ⟨r.answer, r.events, (r.state, p.2 ++ [event r.answer])⟩

/-- A file system all uses of which by path are written down. -/
def watched (fs : FileSystem φ F) : FileSystem (φ × FileLog) F :=
  { fs.zoom Lens.fst with
    locate := fun p => noting (fun answer => .looked p answer.isOk) (fs.locate p)
    readFile := fun p => noting (fun answer => .opened p (failure? answer)) (fs.readFile p)
    writeFile := fun p bytes =>
      noting (fun answer => .wrote p bytes (failure? answer)) (fs.writeFile p bytes)
    openRead := fun p => noting (fun answer => .opened p (failure? answer)) (fs.openRead p)
    openUpdate := fun p => noting (fun answer => .opened p (failure? answer)) (fs.openUpdate p) }

private theorem noting_mirrors (event : Except IoError α → FileEvent) (x : Action IoError φ α) :
    Mirrors Prod.fst id (noting event x) x := by
  intro p
  simp only [noting]
  cases h : x p.1 with
  | mk answer events state => cases answer <;> rfl

theorem watched_seenAs (fs : FileSystem φ F) : fs.watched.SeenAs Prod.fst fs :=
  { fs.zoom_fst_seenAs with
    locate := fun _ => noting_mirrors _ _
    readFile := fun _ => noting_mirrors _ _
    writeFile := fun _ _ => noting_mirrors _ _
    openRead := fun _ => noting_mirrors _ _
    openUpdate := fun _ => noting_mirrors _ _ }

end FileSystem

/-! ### What an action logs -/

/-- What the action adds to the log goes with its answer as `R` says. -/
def Logs (x : Action ε (φ × FileLog) α) (R : FileLog → Except ε α → Prop) : Prop :=
  ∀ p, ∃ log, (x p).state.2 = p.2 ++ log ∧ R log (x p).answer

namespace Logs

variable {x : Action ε (φ × FileLog) α} {R R' : FileLog → Except ε α → Prop}

theorem weaken (h : Logs x R) (weaker : ∀ log answer, R log answer → R' log answer) : Logs x R' := by
  intro p
  obtain ⟨log, state, holds⟩ := h p
  exact ⟨log, state, weaker _ _ holds⟩

theorem of_still (still : ∀ p, (x p).state.2 = p.2) (holds : ∀ p, R [] (x p).answer) : Logs x R := by
  intro p
  refine ⟨[], ?_, holds p⟩
  rw [still, List.append_nil]

theorem bind {f : α → Action ε (φ × FileLog) β} {Q : FileLog → Except ε β → Prop} (hx : Logs x R)
    (error : ∀ log e, R log (.error e) → Q log (.error e))
    (ok : ∀ log a, R log (.ok a) → Logs (f a) fun rest answer => Q (log ++ rest) answer) :
    Logs (x >>= f) Q := by
  intro p
  obtain ⟨log, state, holds⟩ := hx p
  cases h : (x p).answer with
  | error e =>
    obtain ⟨answer, state'⟩ := Action.bind_error f h
    rw [answer, state']
    rw [h] at holds
    exact ⟨log, state, error log e holds⟩
  | ok a =>
    obtain ⟨answer, state'⟩ := Action.bind_ok (f := f) h
    rw [answer, state']
    rw [h] at holds
    obtain ⟨rest, state'', holds'⟩ := ok log a holds (x p).state
    refine ⟨log ++ rest, ?_, holds'⟩
    rw [state'', state, List.append_assoc]

theorem attempt {ε' : Type} (h : Logs x R) : Logs (Action.attempt x : Action ε' (φ × FileLog) _)
    fun log result => match result with
      | .ok answer => R log answer
      | .error _ => False :=
  h

theorem isPresent (fs : FileSystem φ F) (p : Path) :
    Logs (fs.watched.isPresent p : Action ε (φ × FileLog) Bool) fun log answer =>
      ∃ found, answer = .ok found ∧ log = [.looked p found] := by
  intro q
  refine ⟨[.looked p (fs.locate p q.1).answer.isOk], ?_, (fs.locate p q.1).answer.isOk, ?_, rfl⟩
  all_goals
    simp only [FileSystem.isPresent, FileSystem.watched, FileSystem.noting, Action.bind_apply,
      Action.attempt_apply]
    cases (fs.locate p q.1).answer <;> rfl

theorem store (fs : FileSystem φ F) (p : Path) (value : String) :
    Logs (Attribute.store fs.watched p value) fun log answer => ∃ cause?,
      log = [.wrote p (Text.bytesOf value) cause?] ∧ failure? answer = cause?.map (Fault.ofIo p) := by
  intro q
  refine ⟨_, rfl, failure? (fs.writeFile p (Text.bytesOf value) q.1).answer, rfl, ?_⟩
  exact failure?_mapError _ _

theorem open_attribute (fs : FileSystem φ F) (p : Path) :
    (Logs (Attribute.openRead fs.watched p) fun log answer => ∃ cause?,
      log = [.opened p cause?] ∧ failure? answer = cause?.map (Fault.ofIo p)) ∧
    Logs (Attribute.openUpdate fs.watched p) fun log answer => ∃ cause?,
      log = [.opened p cause?] ∧ failure? answer = cause?.map (Fault.ofIo p) := by
  have opens {x : Action IoError φ F} : Logs (Action.mapError (Fault.ofIo p)
      (FileSystem.noting (fun answer => .opened p (failure? answer)) x) >>= fun file =>
        (pure ⟨p, file⟩ : Action Fault (φ × FileLog) (Attribute F))) fun log answer => ∃ cause?,
      log = [.opened p cause?] ∧ failure? answer = cause?.map (Fault.ofIo p) := by
    intro q
    refine ⟨[.opened p (failure? (x q.1).answer)], ?_, failure? (x q.1).answer, rfl, ?_⟩
    all_goals
      simp only [Action.bind_apply, Action.mapError, FileSystem.noting]
      cases (x q.1).answer <;> rfl
  exact ⟨opens, opens⟩

/-- Reading an open attribute, or writing to it, is not written down. -/
theorem read_still (fs : FileSystem φ F) (p : (φ × FileLog) × Attribute F) :
    (Attribute.read fs.watched p).state.1.2 = p.1.2 := by
  simp only [Attribute.read, Action.bind_apply]
  split
  · rfl
  · split
    · rfl
    · rfl

theorem write_still (fs : FileSystem φ F) (value : String) (p : (φ × FileLog) × Attribute F) :
    (Attribute.write fs.watched value p).state.1.2 = p.1.2 := by
  simp only [Attribute.write, Action.bind_apply]
  split
  · rfl
  · rfl

theorem load (fs : FileSystem φ F) (p : Path) :
    Logs (Attribute.load fs.watched p) fun log _ => ∃ cause?, log = [.opened p cause?] := by
  refine (open_attribute fs p).1.bind (fun log e opened => ?_) fun log a opened => ?_
  · obtain ⟨cause?, rfl, _⟩ := opened
    exact ⟨cause?, rfl⟩
  · obtain ⟨cause?, rfl, _⟩ := opened
    intro q
    refine ⟨[], ?_, cause?, rfl⟩
    rw [List.append_nil]
    exact read_still fs (q, a)

end Logs

end Peripherals

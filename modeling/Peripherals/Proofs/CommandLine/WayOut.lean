import Peripherals.FileTree.Access
import Peripherals.Proofs.CommandLine.Seen
import Peripherals.Proofs.CommandLine.Sessions
import Peripherals.Proofs.Files.Shelf
/-!
Ways out of the command line. Main statement: a command line that is turned down leaves every file as
it was, and whatever else happens, all that was exported or switched on is taken back before the end.
-/

set_option autoImplicit false

namespace Peripherals

open Peripherals.Action (Leads Maintains)

variable {φ F : Type}

/-! ### Looking -/

/-- Looking up a path and reading a file keep a property of the surroundings. -/
structure FileSystem.Spares (fs : FileSystem φ F) (G : φ → Prop) : Prop where
  locate : ∀ p, Maintains G (fs.locate p)
  readFile : ∀ p, Maintains G (fs.readFile p)

namespace FileSystem.Spares

variable {fs : FileSystem φ F} {G : φ → Prop}

private theorem isFile {ε : Type} (spares : fs.Spares G) (p : Path) :
    Maintains G (fs.isFile p : Action ε φ Bool) := by
  refine Leads.bind (spares.locate p).attempt fun result => ?_
  cases result with
  | ok kind => exact Maintains.pure
  | error e => exact Maintains.pure

private theorem load (spares : fs.Spares G) (file : Path) (vars : List (String × String)) :
    Maintains G (Configuration.load fs file vars) := by
  have settings : Maintains G (Configuration.readFileSettings fs file) := by
    refine (spares.isFile file).bind fun there => ?_
    split
    · exact (spares.readFile file).mapError.bind fun bytes =>
        (Maintains.ofExcept _).map _
    · exact Maintains.pure
  exact (Maintains.ofExcept _).bind fun _ =>
    settings.bind fun _ => Maintains.ofExcept _

private theorem configure (spares : fs.Spares G) (i : CommandLine.Invocation)
    (vars : List (String × String)) : Maintains G (CommandLine.configure fs i vars) :=
  (spares.load i.file vars).mapError.bind fun _ =>
    (Maintains.ofExcept _).bind fun _ => Maintains.pure

private theorem resolve {ε : Type} (spares : fs.Spares G) (model : Option String) (procRoot : Path) :
    Maintains G (Platform.resolve fs model procRoot : Action ε φ Platform) := by
  cases model with
  | some m => exact Maintains.pure
  | none =>
    have reads (p : Path) : Maintains G (Platform.readModel fs p) := by
      refine (spares.readFile p).bind fun bytes => ?_
      split
      · exact Maintains.pure
      · exact Maintains.fail
    refine Leads.bind (reads _).attempt fun result => ?_
    cases result with
    | ok model => exact (Maintains.note _).bind fun _ => Maintains.pure
    | error e => exact (Maintains.note _).bind fun _ => Maintains.pure

private theorem ofConfiguration (spares : fs.Spares G) (c : Configuration) :
    Maintains G (Board.ofConfiguration fs c) :=
  (Maintains.ofExcept _).bind fun _ => (spares.resolve _ _).bind fun _ =>
    (Maintains.note _).bind fun _ => Maintains.pure

end FileSystem.Spares

private theorem FileTree.fileSystem_spares (files : FileTree) :
    (FileTree.fileSystem.zoom Screen.filesLens).Spares fun s => s.files = files where
  locate p := by
    refine .of_keeps fun s same => ?_
    change (FileTree.locate p s.files).state = files
    unfold FileTree.locate
    split
    all_goals exact same
  readFile p := by
    refine .of_keeps fun s same => ?_
    have opens : Maintains (fun t => t = files) (FileTree.openRead p) := by
      refine .of_keeps fun t same => ?_
      unfold FileTree.openRead
      split
      all_goals exact same
    have reads (f : FileTree.OpenFile) : Maintains (fun t => t = files)
        (Action.beside f FileTree.readAll : Action IoError FileTree _) := by
      refine .of_keeps fun t same => ?_
      cases f with
      | file n position => exact same
      | directory => exact same
    have reading : Maintains (fun t => t = files) (FileTree.fileSystem.readFile p) :=
      opens.bind fun f => (reads f).bind fun r => .of_keeps fun _ => id
    exact reading.keeps same

theorem FileSystem.watched_spares (fs : FileSystem φ F) :
    fs.watched.Spares fun q => q.2.Unwritten where
  locate p := by
    refine .of_keeps fun q unwritten path bytes cause? member => ?_
    rcases List.mem_append.mp member with early | late
    · exact unwritten path bytes cause? early
    · cases List.mem_singleton.mp late
  readFile p := by
    refine .of_keeps fun q unwritten path bytes cause? member => ?_
    rcases List.mem_append.mp member with early | late
    · exact unwritten path bytes cause? early
    · cases List.mem_singleton.mp late

def Console.beside {γ : Type} (console : Console φ) : Console (φ × γ) where
  print text p := (console.print text p.1, p.2)
  pause ms p := (console.pause ms p.1, p.2)
  hold := Action.zoom Lens.fst console.hold
  logger := console.logger

theorem Console.beside_seenAs {γ : Type} (console : Console φ) :
    (console.beside : Console (φ × γ)).SeenAs Prod.fst console where
  print _ _ := rfl
  pause _ _ := rfl
  hold s := by
    simp only [beside, Action.zoom_apply, Lens.fst]
    rcases console.hold s.1 with ⟨_ | _, _, _⟩ <;> rfl
  logger := rfl

private theorem Console.beside_keeps {γ : Type} (console : Console φ) (G : γ → Prop) :
    (console.beside : Console (φ × γ)).Keeps fun p => G p.2 where
  print _ _ := id
  pause _ _ := id
  hold := .of_keeps fun _ => id

/-- A console over shelves that prints nothing, takes no time and logs as it is asked to. -/
def Shelf.console : Console Shelf where
  print _ s := s
  pause _ s := s
  hold := pure ()
  logger := .plain

private theorem Device.teardown_vacant {σ S C : Type} (dev : Device σ S C) (s : σ) (counter : Nat) :
    (dev.teardown ⟨s, counter, ∅⟩).state.device = s := by
  have nothing : (∅ : HandleTable UInt32 (Lease S C)).entries = [] := List.mergeSort_nil
  change (dev.dismissAll (∅ : HandleTable UInt32 (Lease S C)).entries s).state = s
  rw [nothing]
  rfl

namespace CommandLine

variable {fs : FileSystem φ F} {console : Console φ}

/-! ### Requests that are turned down -/

section Refused

variable {P : Board (Rig φ F) × Rig φ F → Prop} {serial : Nat}

private theorem refuted {α : Type} {m : ModuleRef} {x : AnyModule F} {y : Work φ F α}
    {Q : α → Board (Rig φ F) × Rig φ F → Prop} {E : Board (Rig φ F) × Rig φ F → Prop} :
    Leads (AtWork fs m x fun _ => False) y Q E := by
  rintro s ⟨_, _, _, never⟩
  exact never.elim

private theorem runPulse_refused {a : Pwm.Module}
    {D : Desk (World φ) Pwm.Signal a.backend.Channel → Prop}
    (first : Opens fs P serial (.pwm a) D) {c : Pwm.Config} (longer : c.period < c.duty)
    (duration : Option UInt64) :
    Leads P (runPulse fs console c duration) (fun _ => AtWork fs ⟨.pwm, serial⟩ (.pwm a) D)
      (AtWork fs ⟨.pwm, serial⟩ (.pwm a) D) := by
  have refuses : Leads D ((a.backend.driver fs).request c) (fun _ _ => False) D := by
    refine Leads.bind (Q := fun _ _ => False) (.ofExcept fun d good => ?_) fun _ _ never => never.elim
    simp only [Pwm.Config.check, Pwm.checkDuty, if_pos longer]
    exact good
  exact first.bind_eq (((actsAt_onPwm fs a fun _ d => d.request c).leads refuses).bind
    fun h => refuted)

private theorem readAnalog_refused {r : Adc.Rtos} {leases : HandleTable UInt32 (Lease Adc.Config _)}
    {D : Desk (World φ) Adc.Config (Adc.Rtos.Channel F) → Prop} (leaseless : ∀ d, D d → d.leases = ∅)
    (first : Opens fs P serial (.adc ⟨.rtos r, leases⟩) D) {pin : UInt32} (beyond : 255 < pin.toNat)
    (count : UInt32) (interval : UInt64) (scale : Float) :
    Leads P (readAnalog fs console pin count interval scale)
      (fun _ => AtWork fs ⟨.adc, serial⟩ (.adc ⟨.rtos r, leases⟩) D)
      (AtWork fs ⟨.adc, serial⟩ (.adc ⟨.rtos r, leases⟩) D) := by
  let driver := (Adc.Backend.rtos r).driver fs
  have refuses : Leads D (driver.request (.ofPin pin)) (fun _ _ => False) D := by
    refine .of_fails fun d good => ?_
    have free : d.leases.containsKey pin = false := by
      rw [leaseless d good]
      rfl
    have claims : ∃ f, driver.device.claim (.ofPin pin) d.device = ⟨.error f, [], d.device⟩ := by
      simp only [driver, Adc.Driver.device, Adc.Backend.driver, Adc.Driver.zoom, Adc.Rtos.driver,
        Adc.Config.ofPin, if_pos beyond]
      exact ⟨_, rfl⟩
    obtain ⟨f, claim⟩ := claims
    obtain ⟨refused, _⟩ := driver.device.request_free (s := Adc.Config.ofPin pin) free
    obtain ⟨answer, state⟩ := refused f (congrArg Outcome.answer claim)
    rw [claim] at state
    refine ⟨⟨f, answer⟩, ?_⟩
    rw [show (driver.request (.ofPin pin) d).state = d from state]
    exact good
  exact first.bind_eq (((actsAt_onAdc fs ⟨.rtos r, leases⟩ fun _ d => d.request (.ofPin pin)).leads
    refuses).bind fun h => refuted)

end Refused

/-! ### Boards from a configuration -/

private theorem offers_tizenrt {c : Configuration} {platform : Platform} {kind : ModuleKind}
    {o : Offer (Rig φ F)} (offered : (Board.ofPlatform c platform).offers.get? kind = some o)
    (backend : o.backend = "tizenrt") :
    ∃ t, o = ⟨"tizenrt", Rig.addAdc fun _ => .rtos t⟩ := by
  refine Board.offers_ofPlatform (P := fun _ o => o.backend = "tizenrt" →
    ∃ t, o = ⟨"tizenrt", Rig.addAdc fun _ => .rtos t⟩) ?_ ?_ ?_ platform kind o offered backend
  · intro backing o offered backend
    cases backing with
    | tizenrt =>
      obtain rfl := Option.some.inj offered
      exact ⟨_, rfl⟩
    | disabled => cases offered
    | sysfs | mock =>
      obtain rfl := Option.some.inj offered
      simp at backend
  · intro backing o offered backend
    cases backing with
    | tizenrt | disabled => cases offered
    | sysfs | mock =>
      obtain rfl := Option.some.inj offered
      simp at backend
  · intro backing o offered backend
    cases backing with
    | tizenrt | disabled => cases offered
    | sysfs | mock =>
      obtain rfl := Option.some.inj offered
      simp at backend

/-- The board for an invocation, behind what is let through at it. -/
def Invocation.board (fs : FileSystem φ F) (console : Console φ) (i : Invocation)
    (vars : List (String × String)) : Action Complaint φ (Logging.Filter × Board (Rig φ F)) := do
  let c ← configure fs i vars
  let lets ← startLogging console vars c
  let board ← Action.mapError (Complaint.refused ∘ Refusal.fault) (Board.ofConfiguration fs c)
  return (lets, board)

theorem Invocation.run_eq (i : Invocation) (vars : List (String × String)) :
    i.run fs console vars =
        (i.board fs console vars >>= fun p => performAt fs console p.1 p.2 i.command) ∨
      i.run fs console vars = (configure fs i vars >>= fun c => startLogging console vars c >>= fun _ =>
        match c.toToml? with
        | some text => Action.modify (console.print text)
        | none => Action.fail .unwritable) ∧ i.command = .config := by
  unfold Invocation.run Invocation.board
  cases i.command with
  | config => exact .inr ⟨rfl, rfl⟩
  | _ => exact .inl (by simp only [bind_assoc, pure_bind])

theorem Invocation.board_ok {i : Invocation} {vars : List (String × String)} {s : φ}
    {p : Logging.Filter × Board (Rig φ F)} (built : (i.board fs console vars s).answer = .ok p) :
    ∃ c platform, (configure fs i vars s).answer = .ok c ∧
      console.logger.startFor vars c = .ok p.1 ∧ p.2 = Board.ofPlatform c platform := by
  obtain ⟨c, configured, built⟩ := Action.answer_of_bind_ok built
  obtain ⟨lets, started, built⟩ := Action.answer_of_bind_ok built
  obtain ⟨board, made, same⟩ := Action.answer_of_bind_ok built
  obtain rfl := Except.ok.inj same
  obtain ⟨platform, shape⟩ := Board.eq_ofPlatform (Action.answer_of_mapError_ok made)
  refine ⟨c, platform, configured, ?_, shape⟩
  cases starts : console.logger.startFor vars c with
  | error e => simp [startLogging, Action.ofExcept, starts, Except.mapError] at started
  | ok lets' => simpa [startLogging, Action.ofExcept, starts, Except.mapError] using started

theorem Invocation.board_maintains {G : φ → Prop} (spares : fs.Spares G) (i : Invocation)
    (vars : List (String × String)) : Maintains G (i.board fs console vars) :=
  (spares.configure i vars).bind fun c => (Maintains.ofExcept _).bind fun _ =>
    (spares.ofConfiguration c).mapError.bind fun _ => Maintains.pure

private theorem Invocation.run_reaches {G : φ → Prop} (spares : fs.Spares G)
    (prints : ∀ text s, G s → G (console.print text s)) (i : Invocation)
    (vars : List (String × String)) {s : φ} (good : G s) :
    G (i.run fs console vars s).state ∨ ∃ p t, (i.board fs console vars s).answer = .ok p ∧ G t ∧
      (i.run fs console vars s).state = (performAt fs console p.1 p.2 i.command t).state := by
  rcases i.run_eq vars with eq | ⟨eq, _⟩
  · rw [eq]
    have boards : Maintains G (i.board fs console vars) := i.board_maintains spares vars
    cases built : (i.board fs console vars s).answer with
    | error e =>
      rw [(Action.bind_error _ built).2]
      exact .inl (boards.keeps good)
    | ok p =>
      rw [(Action.bind_ok built).2]
      exact .inr ⟨p, _, rfl, boards.keeps good, rfl⟩
  · rw [eq]
    have shows : Maintains G (configure fs i vars >>= fun c => startLogging console vars c >>= fun _ =>
        match c.toToml? with
        | some text => Action.modify (console.print text)
        | none => Action.fail .unwritable) := by
      refine (spares.configure i vars).bind fun c => (Maintains.ofExcept _).bind fun _ => ?_
      split
      · exact .of_keeps fun s => prints _ s
      · exact Maintains.fail
    exact .inl (shows.keeps good)

/-! ### Commands from start to end -/

section

variable {board : Board (Rig φ F)} {lets : Logging.Filter} {command : Command} {s : φ}

private theorem opens_of_built {x : AnyModule F}
    {D : Desk (World φ) (x.manager fs).Settings (x.manager fs).Channel → Prop} {world : World φ}
    (granted : (atBoard (Board.requestKind x.kind) (board, ({ world } : Rig φ F))).answer =
      .ok ⟨x.kind, 0⟩)
    (atWork : AtWork fs ⟨x.kind, 0⟩ x D
      (atBoard (Board.requestKind x.kind) (board, { world })).state) :
    Opens fs (fun s => s = (board, { world })) 0 x D := by
  rintro s rfl
  rw [granted]
  exact ⟨rfl, atWork⟩

private theorem performAt_unoffered (new : New board) {kind : ModuleKind}
    (needs : command.kind? = some kind)
    (absent : board.offers.get? kind = none) : (performAt fs console lets board command s).state = s := by
  cases new.start fs { files := s } kind with
  | built o x offered => cases absent.symm.trans offered
  | absent unoffered refused same =>
    obtain ⟨complaint, answer⟩ := refused
    have state := (perform_refused fs console lets needs answer).2.trans same
    change (endBoard fs (perform fs console lets command _).state).state.2.world.files = s
    rw [state, endBoard_bare fs new.bare]

private theorem performAt_ended {m : ModuleRef} {x : AnyModule F} {G : φ → Prop}
    {D : Desk (World φ) (x.manager fs).Settings (x.manager fs).Channel → Prop}
    (kept : Leads (fun t => t = (board, ({ world := { files := s } } : Rig φ F)))
      (perform fs console lets command) (fun _ => AtWork fs m x D) (AtWork fs m x D))
    (ends : ∀ d, D d → G ((x.manager fs).device.teardown d).state.device.files) :
    G (performAt fs console lets board command s).state := by
  have post := kept _ rfl
  have atWork : AtWork fs m x D
      (perform fs console lets command (board, { world := { files := s } })).state := by
    split at post
    · exact post
    · exact post
  exact atWork.endBoard (G := fun w => G w.files) ends

end

/-- There is no module for the command, or its request is turned down before the device hears of
it. -/
inductive Idle (board : Board (Rig φ F)) : Command → Prop
  | unoffered {command : Command} {kind : ModuleKind} (needs : command.kind? = some kind)
    (absent : board.backend? kind = none) : Idle board command
  | duty {c : Pwm.Config} {duration : Option UInt64} (longer : c.period < c.duty) :
    Idle board (.runPulse c duration)
  | channel {pin count : UInt32} {interval : UInt64} {scale : Float}
    (backend : board.backend? .adc = some "tizenrt") (beyond : 255 < pin.toNat) :
    Idle board (.readAnalog pin count interval scale)

/-- A command that comes to nothing leaves the surroundings as they were. -/
private theorem performAt_idle {c : Configuration} {platform : Platform} {command : Command}
    (idle : Idle (Board.ofPlatform c platform : Board (Rig φ F)) command) (lets : Logging.Filter) (s : φ) :
    (performAt fs console lets (Board.ofPlatform c platform) command s).state = s := by
  have new : New (Board.ofPlatform c platform : Board (Rig φ F)) := new_ofPlatform c platform
  have vacant (x : AnyModule F) (d : Desk (World φ) (x.manager fs).Settings (x.manager fs).Channel)
      (same : d = ⟨{ files := s }, 1, ∅⟩) :
      ((x.manager fs).device.teardown d).state.device.files = s := by
    rw [same, Device.teardown_vacant]
  cases idle with
  | unoffered needs absent => exact performAt_unoffered new needs (Option.map_eq_none_iff.mp absent)
  | duty longer =>
    cases new.start fs { files := s } .pwm with
    | absent unoffered => exact performAt_unoffered new rfl unoffered
    | built o x offered own build granted atWork =>
      cases x with
      | adc a | gpio a => cases own
      | pwm a =>
        exact performAt_ended (G := fun t => t = s)
          (runPulse_refused (opens_of_built granted atWork) longer _) (vacant (.pwm a))
  | channel backend beyond =>
    cases new.start fs { files := s } .adc with
    | absent unoffered => exact performAt_unoffered new rfl unoffered
    | built o x offered own build granted atWork =>
      obtain ⟨o', offered', named⟩ := Option.map_eq_some_iff.mp backend
      obtain rfl := Option.some.inj (offered.symm.trans offered')
      obtain ⟨t, rfl⟩ := offers_tizenrt offered named
      cases x with
      | gpio a | pwm a => cases own
      | adc a =>
        have seated := congrArg (fun p => p.2.adcs.get? 0) build
        obtain rfl : (⟨.rtos t, ∅⟩ : Adc.Module F) = a := Option.some.inj seated
        exact performAt_ended (G := fun t => t = s)
          (readAnalog_refused (fun d same => congrArg Desk.leases same)
            (opens_of_built granted atWork) beyond _ _ _) (vacant (.adc ⟨.rtos t, ∅⟩))

/-- Over files under watch every command leaves a tidy log behind. -/
private theorem performAt_tidy (c : Configuration) (platform : Platform) (lets : Logging.Filter)
    (command : Command) {q : φ × FileLog} (unwritten : q.2.Unwritten) :
    (performAt fs.watched console.beside lets (Board.ofPlatform c platform) command q).state.2.Tidy := by
  have new : New (Board.ofPlatform c platform : Board (Rig (φ × FileLog) F)) :=
    new_ofPlatform c platform
  cases needs : command.kind? with
  | none =>
    have prints := (console.beside_keeps FileLog.Unwritten : (console.beside : Console (φ × _)).Keeps _)
    have kept := (perform_moduleless fs.watched console.beside lets needs prints.print).keeps
      (s := (Board.ofPlatform c platform, { world := { files := q } })) ⟨new.bare, unwritten⟩
    have ended := endBoard_bare fs.watched kept.1
    have same := congrArg (fun t => t.2.world.files.2.Tidy) ended
    exact same.mpr kept.2.tidy
  | some kind =>
    cases new.start fs.watched { files := q } kind with
    | absent unoffered =>
      rw [performAt_unoffered new needs unoffered]
      exact unwritten.tidy
    | built o x offered own build granted atWork =>
      subst own
      obtain ⟨D, serves⟩ := x.exists_serves fs
      have kept : Kept fs.watched console.beside x D := {
        commands := fun k => .of_keeps (serves.perform k)
        outside := fun d => {
          print := fun _ _ => serves.drift _ _ rfl
          pause := fun _ _ => serves.drift _ _ rfl
          hold := .of_keeps fun _ => serves.drift _ _ rfl } }
      have working : AtWork fs.watched ⟨x.kind, 0⟩ x D (atBoard (Board.requestKind x.kind)
          (Board.ofPlatform c platform, { world := { files := q } })).state :=
        atWork.mono fun d same => same ▸ serves.idle _ _ unwritten
      exact performAt_ended (G := fun q => q.2.Tidy)
        (kept.perform needs (opens_of_built granted working) lets) serves.teardown

/-! ### Ways out -/

/-- The ways in which a command line is turned down before a device hears of it. -/
inductive Rejected (fs : FileSystem φ F) (console : Console φ) (args : List String)
    (vars : List (String × String)) (s : φ) : Prop
  /-- The words make no sense, or they ask for help. -/
  | words {stop : Stop} (read : Invocation.read args = .error stop)
  /-- The configuration cannot be loaded, or it is not valid. -/
  | configuration {i : Invocation} {c : Complaint} (read : Invocation.read args = .ok i)
    (failed : (configure fs i vars s).answer = .error c)
  | logging {i : Invocation} {c : Configuration} {message : String} (read : Invocation.read args = .ok i)
    (configured : (configure fs i vars s).answer = .ok c)
    (failed : console.logger.startFor vars c = .error message)
  | unoffered {i : Invocation} {kind : ModuleKind} {lets : Logging.Filter} {board : Board (Rig φ F)}
    (read : Invocation.read args = .ok i) (needs : i.command.kind? = some kind)
    (built : (i.board fs console vars s).answer = .ok (lets, board))
    (absent : board.backend? kind = none)
  | duty {i : Invocation} {c : Pwm.Config} {duration : Option UInt64}
    (read : Invocation.read args = .ok i) (asks : i.command = .runPulse c duration)
    (longer : c.period < c.duty)
  /-- The converter of a real-time system has no such channel. -/
  | channel {i : Invocation} {pin count : UInt32} {interval : UInt64} {scale : Float}
    {lets : Logging.Filter} {board : Board (Rig φ F)} (read : Invocation.read args = .ok i)
    (asks : i.command = .readAnalog pin count interval scale)
    (built : (i.board fs console vars s).answer = .ok (lets, board))
    (backend : board.backend? .adc = some "tizenrt") (beyond : 255 < pin.toNat)

private theorem Rejected.cases {args : List String} {vars : List (String × String)} {s : φ}
    (rejected : Rejected fs console args vars s) : (∃ stop, Invocation.read args = .error stop) ∨
      ∃ i, Invocation.read args = .ok i ∧
        ∀ p, (i.board fs console vars s).answer = .ok p → Idle p.2 i.command := by
  cases rejected with
  | words read => exact .inl ⟨_, read⟩
  | configuration read failed =>
    refine .inr ⟨_, read, fun p built => ?_⟩
    obtain ⟨_, _, configured, _⟩ := Invocation.board_ok built
    cases failed.symm.trans configured
  | logging read configured failed =>
    refine .inr ⟨_, read, fun p built => ?_⟩
    obtain ⟨_, _, configured', started, _⟩ := Invocation.board_ok built
    obtain rfl := Except.ok.inj (configured.symm.trans configured')
    cases failed.symm.trans started
  | unoffered read needs built absent =>
    refine .inr ⟨_, read, fun p same => ?_⟩
    obtain rfl := Except.ok.inj (built.symm.trans same)
    exact .unoffered needs absent
  | duty read asks longer =>
    refine .inr ⟨_, read, fun p _ => ?_⟩
    rw [asks]
    exact .duty longer
  | channel read asks built backend beyond =>
    refine .inr ⟨_, read, fun p same => ?_⟩
    obtain rfl := Except.ok.inj (built.symm.trans same)
    rw [asks]
    exact .channel backend beyond

theorem run_ok {args : List String} {vars : List (String × String)} {i : Invocation} {s : φ}
    (read : Invocation.read args = .ok i) :
    (run fs console args vars s).2 = (i.run fs console vars s).state := by
  simp only [run, read]
  split
  · rfl
  · rfl

private theorem run_rejected {G : φ → Prop} (spares : fs.Spares G)
    (prints : ∀ text s, G s → G (console.print text s)) {args : List String}
    {vars : List (String × String)} {s : φ} (rejected : Rejected fs console args vars s) (good : G s) :
    G (run fs console args vars s).2 := by
  rcases rejected.cases with ⟨stop, read⟩ | ⟨i, read, idle⟩
  · unfold run
    rw [read]
    cases stop with
    | help => exact prints _ s good
    | misuse => exact good
  · rw [run_ok read]
    rcases i.run_reaches spares prints vars good with kept | ⟨p, t, built, kept, state⟩
    · exact kept
    · obtain ⟨c, platform, -, -, shape⟩ := Invocation.board_ok built
      have idle : Idle p.2 i.command := idle p built
      rw [shape] at idle state
      rw [state, performAt_idle idle]
      exact kept

theorem run_tidy (args : List String) (vars : List (String × String)) {q : φ × FileLog}
    (unwritten : q.2.Unwritten) : (run fs.watched console.beside args vars q).2.2.Tidy := by
  have prints := (console.beside_keeps FileLog.Unwritten : (console.beside : Console (φ × _)).Keeps _).print
  cases read : Invocation.read args with
  | error stop => exact (run_rejected fs.watched_spares prints (.words read) unwritten).tidy
  | ok i =>
    rw [run_ok read]
    rcases i.run_reaches fs.watched_spares prints vars unwritten with kept | ⟨p, t, built, kept, state⟩
    · exact kept.tidy
    · obtain ⟨c, platform, -, -, shape⟩ := Invocation.board_ok built
      rw [state, shape]
      exact performAt_tidy c platform p.1 i.command kept

/-- A command line that is turned down leaves the whole file tree as it was. And on every way out of
every command line, whatever the file system answers and the console does, each number that was exported
is written to the unexport attribute beside it later, or this is tried, and each output that was switched
on is switched off later, or this is tried, before anyone tries to unexport its channel. Watching the file
system changes neither what is reported nor what is left behind. -/
theorem every_way_out_cleans_up (args : List String) (vars : List (String × String)) :
    (∀ (logger : Logging.Facility) (s : Screen FileTree),
      Rejected (FileTree.fileSystem.zoom Screen.filesLens) (Screen.console logger) args vars s →
      (run (FileTree.fileSystem.zoom Screen.filesLens) (Screen.console logger) args vars s).2.files =
        s.files) ∧
    ∀ {φ F : Type} (fs : FileSystem φ F) (console : Console φ) (s : φ),
      let watched := run fs.watched console.beside args vars (s, [])
      run fs console args vars s = (watched.1, watched.2.1) ∧ watched.2.2.Tidy := by
  refine ⟨fun logger s rejected => ?_, fun fs console s => ?_⟩
  · have prints : ∀ text (t : Screen FileTree), t.files = s.files →
        ((Screen.console logger).print text t).files = s.files := fun _ _ => id
    exact run_rejected (FileTree.fileSystem_spares s.files) prints rejected rfl
  · have unwritten : FileLog.Unwritten [] := fun _ _ _ member => by cases member
    exact ⟨run_seen fs.watched_seenAs console.beside_seenAs args vars (s, []),
      run_tidy args vars unwritten⟩

/-- A pulse longer than its period touches nothing. A shorter one is exported, switched on, switched off
and unexported. -/
theorem pulses_refused_or_taken_back :
    (let args := ["pwm", "set", "0", "--period", "5", "--duty", "9", "--duration-ms", "1"]
      let tree := FileTree.create default (.file ⟨"sys/class/pwm/pwmchip0/export"⟩ [])
      (∃ i c d, Invocation.read args = .ok i ∧ i.command = .runPulse c d ∧ c.period < c.duty) ∧
        (run (FileTree.fileSystem.zoom Screen.filesLens) (Screen.console .plain) args []
          { files := tree }).2.files = tree) ∧
    let args := ["pwm", "set", "0", "--period", "9", "--duty", "5", "--duration-ms", "1"]
    let watched := run Shelf.channels.watched Shelf.console.beside args [] ({}, [])
    watched.1.code = 0 ∧ watched.2.2.Tidy ∧ [
      FileEvent.wrote ⟨"/sys/class/pwm/pwmchip0/export"⟩ (Text.bytesOf "0") none,
      FileEvent.wrote ⟨"/sys/class/pwm/pwmchip0/pwm0/enable"⟩ (Text.bytesOf "1") none,
      FileEvent.wrote ⟨"/sys/class/pwm/pwmchip0/pwm0/enable"⟩ (Text.bytesOf "0") none,
      FileEvent.wrote ⟨"/sys/class/pwm/pwmchip0/unexport"⟩ (Text.bytesOf "0") none].Sublist
        watched.2.2 := by
  constructor
  · intro args tree
    have read : ∃ i c d, Invocation.read args = .ok i ∧ i.command = .runPulse c d ∧ c.period < c.duty :=
      ⟨_, _, _, rfl, rfl, by decide⟩
    refine ⟨read, ?_⟩
    obtain ⟨i, c, d, read, asks, longer⟩ := read
    exact (every_way_out_cleans_up args []).1 .plain { files := tree } (.duty read asks longer)
  · intro args watched
    refine ⟨by decide +kernel, ?_, by decide +kernel⟩
    exact ((every_way_out_cleans_up args []).2 Shelf.channels Shelf.console {}).2

/-- A value with more behind the level cannot be read back. This is noticed just where the report is let
through, and the line is given back all the same. -/
example :
    let writes (vars : List (String × String)) := run (Shelf.lines none "1x").watched
      Shelf.console.beside ["gpio", "write", "0", "1"] vars ({}, [])
    (writes []).1.code = 1 ∧ (writes [("RUST_LOG", "off")]).1.code = 0 ∧
      FileEvent.wrote ⟨"/sys/class/gpio/unexport"⟩ (Text.bytesOf "0") none ∈ (writes []).2.2 := by
  decide +kernel

end CommandLine

end Peripherals

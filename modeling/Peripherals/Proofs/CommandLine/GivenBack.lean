import Peripherals.Proofs.CommandLine.WayOut
/-!
What success says of an exported line or channel. Main statement: when the command that reads a line
succeeds, all that was exported has been unexported; when another command does, this was at least tried.
-/

set_option autoImplicit false

namespace Peripherals

open Peripherals.Action (Leads Maintains)

variable {φ F σ S C α β : Type}

/-! ### Logs without failed writes -/

/-- Every write was done. -/
def FileLog.Unfailed (log : FileLog) : Prop :=
  ∀ path bytes e, FileEvent.wrote path bytes (some e) ∉ log

namespace FileLog

private theorem Unwritten.unfailed {log : FileLog} (unwritten : log.Unwritten) : log.Unfailed :=
  fun _ _ _ => unwritten _ _ _

private theorem Unfailed.append {log rest : FileLog} (unfailed : log.Unfailed)
    (unfailed' : rest.Unfailed) :
    (log ++ rest).Unfailed := by
  intro path bytes e member
  rcases List.mem_append.mp member with early | late
  · exact unfailed path bytes e early
  · exact unfailed' path bytes e late

private theorem unfailed_singleton {e : FileEvent} (done : e.writeFault? = none) : Unfailed [e] := by
  intro path bytes cause member
  rw [← List.mem_singleton.mp member] at done
  cases done

end FileLog

namespace Action

/-- Started with `P`, the action leads to `Q` if it succeeds. -/
abbrev Earns {ε : Type} (P : σ → Prop) (x : Action ε σ α) (Q : α → σ → Prop) : Prop :=
  Leads P x Q fun _ => True

theorem Maintains.earns {ε : Type} {P : σ → Prop} {x : Action ε σ α} (h : Maintains P x) :
    Earns P x fun _ => P :=
  h.weaken (fun _ => id) (fun _ _ => id) fun _ _ => trivial

theorem Earns.of_fails {ε : Type} {P : σ → Prop} {x : Action ε σ α} {e : ε} {Q : β → σ → Prop} :
    Earns P (x >>= fun _ => (Action.fail e : Action ε σ β)) Q := by
  intro s _
  rw [bind_apply]
  cases h : (x s).answer with
  | error e' => trivial
  | ok a => trivial

end Action

open Peripherals.Action (Earns)

/-! ### Calls to a driver of lines -/

namespace Logs

private theorem earns {x : Action Fault (φ × FileLog) α}
    (logs : Logs x fun log answer => (∃ a, answer = .ok a) → log.Unfailed) :
    Earns (fun q => q.2.Unfailed) x fun _ q => q.2.Unfailed := by
  intro q unfailed
  obtain ⟨log, state, done⟩ := logs q
  cases answer : (x q).answer with
  | error f => trivial
  | ok a =>
    change (x q).state.2.Unfailed
    rw [state]
    exact unfailed.append (done ⟨a, answer⟩)

private theorem store_earns (fs : FileSystem φ F) (p : Path) (value : String) :
    Earns (fun q => q.2.Unfailed) (Attribute.store fs.watched p value) fun _ q => q.2.Unfailed := by
  refine earns ((Logs.store fs p value).weaken fun log answer stored => ?_)
  rintro ⟨u, rfl⟩
  obtain ⟨cause?, rfl, done⟩ := stored
  refine FileLog.unfailed_singleton ?_
  exact done.symm

private theorem claims_earns {p : Ports C} {key : UInt32} {x : Action Fault (φ × FileLog) C}
    (claims : p.Claims key x) : Earns (fun q => q.2.Unfailed) x fun _ q => q.2.Unfailed := by
  refine earns (claims.weaken fun log answer claimed => ?_)
  rintro ⟨c, rfl⟩
  obtain ⟨found, claimed, -⟩ := claimed
  intro path bytes e member
  have faultless := List.findSome?_eq_none_iff.mp claimed.first_fault _ member
  rw [p.fault?_wrote] at faultless
  cases faultless

end Logs

private theorem Exporting.close_earns {marked : C → Bool} {back : C → Action Fault φ Unit}
    {unmark : C → C}
    (report : C → Event) {P : φ → Prop} (hback : ∀ c, Earns P (back c) fun _ => P) :
    Earns (fun p => P p.1) (Exporting.close marked back unmark report) fun _ p => P p.1 := by
  intro p before
  rw [Exporting.close_apply]
  by_cases mark : marked p.2 = true
  · rw [if_pos mark]
    have backs : Earns (fun q => q = p) (Action.zoom Lens.fst (back p.2)) fun _ q => P q.1 := by
      rintro _ rfl
      exact hback _ _ before
    have steps : Earns (fun q => q = p) (do
        Action.zoom Lens.fst (back p.2)
        Action.modify fun q => (q.1, unmark q.2)
        Action.note (report p.2)) fun _ q => P q.1 :=
      backs.bind fun _ _ kept => kept
    exact steps p rfl
  · rw [if_neg mark]
    exact before

namespace Gpio

/-- Calls to the driver that succeed keep the property of its device. -/
structure Driver.Earning (d : Driver σ C) (G : σ → Prop) : Prop where
  claim : ∀ c, Earns G (d.claim c) fun _ => G
  read : ∀ p, G p.1 → G (d.read p).state.1
  close : Earns (fun p => G p.1) d.close fun _ p => G p.1

private theorem Sysfs.earning (fs : FileSystem φ F) (g : Sysfs) :
    (Sysfs.driver fs.watched g).Earning fun q => q.2.Unfailed where
  claim c := Logs.claims_earns (g.claim_claims fs c)
  read p unfailed := by
    let value : Action Fault ((φ × FileLog) × Attribute F) Bool := do
      let value ← Attribute.read fs.watched
      Action.ofExcept (levelOf (← Action.get).2.path value)
    have quiet (q : (φ × FileLog) × Attribute F) : (value q).state.1.2 = q.1.2 := by
      have still := Logs.read_still fs q
      simp only [value, Action.bind_apply]
      split
      · exact still
      · exact still
    change (value (p.1, p.2.value)).state.1.2.Unfailed
    rw [quiet]
    exact unfailed
  close := by
    change Earns (fun p => p.1.2.Unfailed) (Sysfs.close fs.watched g) fun _ p => p.1.2.Unfailed
    rw [Sysfs.close_eq]
    exact Exporting.close_earns _ fun line => Logs.store_earns fs (g.classDir.join "unexport") _

private theorem Backend.earning (fs : FileSystem φ F) (b : Backend) :
    (b.driver fs.watched).Earning fun w => w.files.2.Unfailed := by
  cases b with
  | sysfs g =>
    have earning := Sysfs.earning fs g
    exact ⟨fun c w => earning.claim c w.files, fun p => earning.read (p.1.files, p.2),
      fun p => earning.close (p.1.files, p.2)⟩
  | simulated serial | recorded serial | quiet =>
    refine ⟨fun c => Action.Maintains.earns (.of_keeps fun w kept => ?_), fun _ kept => kept,
      Action.Maintains.earns (.of_keeps fun p kept => ?_)⟩
    · exact kept
    · exact kept

end Gpio

/-! ### One lease at a desk -/

namespace Desk

/-- No handle but one has a lease. -/
def Only (h : Handle) (d : Desk σ S C) : Prop :=
  ∀ other, other ≠ h → d.leases.slots.get? other = none

/-- No handle has a lease. -/
def Bare (d : Desk σ S C) : Prop :=
  ∀ h, d.leases.slots.get? h = none

variable {G : σ → Prop}

private theorem withLease_earns {work : Action Fault (σ × Lease S C) α} {h : Handle}
    (earns : Earns (fun p => G p.1) work fun _ p => G p.1) :
    Earns (fun d => d.Only h ∧ G d.device) (withLease h work) fun _ d => d.Only h ∧ G d.device := by
  rintro d ⟨only, good⟩
  cases slot : d.leases.slots.get? h with
  | none =>
    simp only [withLease, HandleTable.get?_eq_none_iff.mpr slot]
  | some entry =>
    have post := earns (d.device, entry.2) good
    simp only [withLease, HandleTable.get?_eq_some_iff.mpr ⟨entry.1, slot⟩]
    cases answer : (work (d.device, entry.2)).answer with
    | error f => trivial
    | ok a =>
      rw [answer] at post
      refine ⟨fun other differs => ?_, post⟩
      exact (HandleTable.slots_set slot _ other).trans ((if_neg differs).trans (only other differs))

end Desk

namespace Device

variable (dev : Device σ S C) {G : σ → Prop}

private theorem request_earns {s : S} (claims : Earns G (dev.claim s) fun _ => G) :
    Earns (fun d => d.Bare ∧ G d.device) (dev.request s) fun h d => d.Only h ∧ G d.device := by
  rintro d ⟨bare, good⟩
  cases key : d.leases.containsKey (dev.trade.key s) with
  | true =>
    rw [dev.request_taken key]
    trivial
  | false =>
    obtain ⟨refused, accepted⟩ := dev.request_free key
    have post := claims d.device good
    cases claim : (dev.claim s d.device).answer with
    | error f =>
      rw [(refused f claim).1]
      trivial
    | ok c =>
      rw [(accepted c claim).1, (accepted c claim).2]
      rw [claim] at post
      refine ⟨fun other differs => ?_, post⟩
      exact (HandleTable.slots_entered _ _ _ other).trans ((if_neg differs).trans (bare other))

private theorem release_earns {h : Handle}
    (rests : Earns (fun p => G p.1) dev.windUp fun _ p => G p.1) :
    Earns (fun d => d.Only h ∧ G d.device) (dev.release h) fun _ d => d.Bare ∧ G d.device := by
  refine (Desk.withLease_earns rests).bind fun _ => ?_
  rintro d ⟨only, good⟩
  cases slot : d.leases.slots.get? h with
  | none =>
    have gone : d.leases.remove? h = none := by simp [HandleTable.remove?, slot]
    simp only [strike, gone]
    refine ⟨fun other => ?_, good⟩
    by_cases same : other = h
    · rw [same]
      exact slot
    · exact only other same
  | some entry =>
    simp only [strike, HandleTable.remove?_of_some slot]
    refine ⟨fun other => (HandleTable.slots_without _ _ other).trans ?_, good⟩
    split
    · rfl
    · next differs => exact only other differs

private theorem teardown_bare {d : Desk σ S C} (bare : d.Bare) :
    (dev.teardown d).state.device = d.device := by
  have slotless : d.leases.slots = ∅ := Assoc.eq_empty bare
  have nothing : d.leases.entries = [] := by
    rw [HandleTable.entries, slotless]
    exact List.mergeSort_nil
  change (dev.dismissAll d.leases.entries d.device).state = d.device
  rw [nothing]
  rfl

end Device

namespace CommandLine

variable {fs : FileSystem φ F} {console : Console φ}

/-- The command that reads a line gives it back before it succeeds. -/
private theorem readLine_earns {a : Gpio.Module F} {serial : Nat} {G : World φ → Prop}
    {P : Board (Rig φ F) × Rig φ F → Prop} (earning : (a.backend.driver fs).Earning G)
    (prints : ∀ text w, G w → G { w with files := console.print text w.files })
    (first : Leads P (atBoard (Board.requestKind .gpio)) (fun m s => m = ⟨.gpio, serial⟩ ∧
      AtWork fs ⟨.gpio, serial⟩ (.gpio a) (fun d => d.Bare ∧ G d.device) s) fun _ => True)
    (line : UInt32) : Earns P (readLine fs console line) fun _ =>
      AtWork fs ⟨.gpio, serial⟩ (.gpio a) fun d => d.Bare ∧ G d.device := by
  let driver := a.backend.driver fs
  let c := Gpio.Config.input line
  refine first.bind_eq ?_
  have asks := (actsAt_onGpio (n := serial) fs a fun _ d => d.request c).leads
    (driver.device.request_earns (earning.claim c))
  refine (asks.weaken (fun _ => id) (fun _ _ => id) fun _ _ => trivial).bind fun h => ?_
  have reads : Earns (fun p : World φ × Lease Gpio.Config _ => G p.1)
      (Action.zoom Lease.channelLens driver.read) fun _ p => G p.1 :=
    Maintains.earns (.of_keeps fun p kept => earning.read (p.1, p.2.channel) kept)
  have levels := (actsAt_onGpio (n := serial) fs a fun _ d => d.level h).leads
    (Desk.withLease_earns (h := h) reads)
  refine Leads.bind levels.attempt fun level => ?_
  cases level with
  | error e => exact Earns.of_fails
  | ok level =>
    have said : Earns (AtWork fs ⟨.gpio, serial⟩ (.gpio a) fun d => d.Only h ∧ G d.device)
        (say console (if level then "1" else "0") : Work φ F Unit) fun _ =>
          AtWork fs ⟨.gpio, serial⟩ (.gpio a) fun d => d.Only h ∧ G d.device :=
      Maintains.earns (.of_keeps fun _ atWork => atWork.surroundings fun d kept =>
        ⟨kept.1, prints _ _ kept.2⟩)
    refine said.bind fun _ => ?_
    have closes : Earns (fun p : World φ × Lease Gpio.Config _ => G p.1) driver.device.windUp
        fun _ p => G p.1 :=
      fun p kept => (earning.close (p.1, p.2.channel) kept :)
    have frees : Earns (fun d : Desk (World φ) Gpio.Config _ => d.Only h ∧ G d.device)
        (Owned.release driver.device ⟨h, c, false⟩) fun _ d => d.Bare ∧ G d.device :=
      (driver.device.release_earns closes).bind fun _ _ kept => kept
    have freed := (actsAt_onGpio (n := serial) fs a fun _ d => Owned.release d.device ⟨h, c, false⟩).leads
      frees
    refine Leads.bind freed.attempt fun result => ?_
    cases result with
    | ok _ => exact Kept.release.earns
    | error e => exact Earns.of_fails

private theorem performAt_readLine_earns (c : Configuration) (platform : Platform)
    (lets : Logging.Filter)
    (line : UInt32) : Earns (fun q => q.2.Unwritten)
      (performAt fs.watched console.beside lets (Board.ofPlatform c platform) (.readLine line))
      fun _ q => q.2.Unfailed := by
  intro q unwritten
  let s : Board (Rig (φ × FileLog) F) × Rig (φ × FileLog) F :=
    (Board.ofPlatform c platform, { world := { files := q } })
  have answer : (performAt fs.watched console.beside lets (Board.ofPlatform c platform)
      (.readLine line) q).answer = (perform fs.watched console.beside lets (.readLine line) s).answer := rfl
  rw [answer]
  have new : New s.1 := new_ofPlatform c platform
  cases new.start fs.watched { files := q } .gpio with
  | absent unoffered refused =>
    obtain ⟨complaint, refused⟩ := refused
    have needs : (Command.readLine line).kind? = some .gpio := rfl
    rw [(perform_refused fs.watched console.beside lets needs refused).1]
    trivial
  | built o x offered own build granted atWork =>
    cases x with
    | adc a | pwm a => cases own
    | gpio a =>
      have bare : AtWork fs.watched ⟨.gpio, 0⟩ (.gpio a) (fun d => d.Bare ∧ d.device.files.2.Unfailed)
          (atBoard (Board.requestKind .gpio) s).state :=
        atWork.mono fun d same => same ▸ ⟨fun _ => rfl, unwritten.unfailed⟩
      have first : Leads (· = s) (atBoard (Board.requestKind .gpio)) (fun m t => m = ⟨.gpio, 0⟩ ∧
          AtWork fs.watched ⟨.gpio, 0⟩ (.gpio a) (fun d => d.Bare ∧ d.device.files.2.Unfailed) t)
          fun _ => True := by
        rintro _ rfl
        rw [granted]
        exact ⟨rfl, bare⟩
      have worked : Earns (· = s) (readLine fs.watched console.beside line) fun _ =>
          AtWork fs.watched ⟨.gpio, 0⟩ (.gpio a) fun d => d.Bare ∧ d.device.files.2.Unfailed :=
        readLine_earns (Gpio.Backend.earning fs a.backend) (fun _ _ => id) first line
      cases done : (perform fs.watched console.beside lets (.readLine line) s).answer with
      | error e => trivial
      | ok u =>
        refine (worked.of_ok rfl done).endBoard (G := fun w => w.files.2.Unfailed) fun d kept => ?_
        rw [Device.teardown_bare _ kept.1]
        exact kept.2

/-- Over files under watch, a line that was read with success was read without a failed write. -/
private theorem run_readLine_unfailed {args : List String} {vars : List (String × String)}
    {i : Invocation}
    {line : UInt32} {q : φ × FileLog} (read : Invocation.read args = .ok i)
    (asks : i.command = .readLine line) (unwritten : q.2.Unwritten)
    (success : (run fs.watched console.beside args vars q).1.code = 0) :
    (run fs.watched console.beside args vars q).2.2.Unfailed := by
  have answer : ((i.run fs.watched console.beside vars) q).answer = .ok () := by
    simp only [run, read] at success
    cases answer : ((i.run fs.watched console.beside vars) q).answer with
    | ok u => rfl
    | error c =>
      rw [answer] at success
      cases c with
      | notLoaded file f => cases f <;> cases success
      | _ => cases success
  rw [run_ok read]
  have earns : Earns (fun q => q.2.Unwritten) (i.run fs.watched console.beside vars)
      fun _ q => q.2.Unfailed := by
    rcases i.run_eq vars with eq | ⟨_, shows⟩
    · have made : Earns (fun q => q.2.Unwritten) (i.board fs.watched console.beside vars) fun p q =>
          (∃ c platform, p.2 = Board.ofPlatform c platform) ∧ q.2.Unwritten := by
        intro q unwritten
        cases built : (i.board fs.watched console.beside vars q).answer with
        | error e => trivial
        | ok p =>
          obtain ⟨c, platform, -, -, shape⟩ := Invocation.board_ok built
          exact ⟨⟨c, platform, shape⟩, (i.board_maintains fs.watched_spares vars).keeps unwritten⟩
      rw [eq, asks]
      refine made.bind fun p => ?_
      rintro q ⟨⟨c, platform, shape⟩, unwritten⟩
      rw [shape]
      exact performAt_readLine_earns c platform p.1 line q unwritten
    · cases asks.symm.trans shows
  exact earns.of_ok unwritten answer

/-- Where a run ends with code 0, every number that was exported has been unexported since. Only a
command other than reading a line can have missed this, and then it has tried and failed. Watching the
file system changes neither what is reported nor what is left behind. -/
theorem success_unexports_or_tries {args : List String} {i : Invocation}
    (read : Invocation.read args = .ok i) (vars : List (String × String)) {φ F : Type}
    (fs : FileSystem φ F) (console : Console φ) (s : φ) :
    let watched := run fs.watched console.beside args vars (s, [])
    run fs console args vars s = (watched.1, watched.2.1) ∧ (watched.1.code = 0 →
      ∀ dir bytes before after,
        watched.2.2 = before ++ FileEvent.wrote (Path.join dir "export") bytes none :: after →
        FileEvent.wrote (dir.join "unexport") bytes none ∈ after ∨
          (∀ line, i.command ≠ .readLine line) ∧
            ∃ e, FileEvent.wrote (dir.join "unexport") bytes (some e) ∈ after) := by
  intro watched
  have unwritten : FileLog.Unwritten [] := fun _ _ _ member => by cases member
  refine ⟨run_seen fs.watched_seenAs console.beside_seenAs args vars (s, []), ?_⟩
  intro success dir bytes before after cut
  have tidy : watched.2.2.Tidy := run_tidy args vars unwritten
  obtain ⟨mid, e, rest, later, ⟨cause?, rfl⟩, -⟩ := tidy.1 dir bytes before after cut
  have tried : FileEvent.wrote (dir.join "unexport") bytes cause? ∈ after := by
    rw [later]
    simp
  cases cause? with
  | none => exact .inl tried
  | some cause =>
    refine .inr ⟨fun line asks => ?_, cause, tried⟩
    have unfailed : watched.2.2.Unfailed := run_readLine_unfailed read asks unwritten success
    refine unfailed (dir.join "unexport") bytes cause ?_
    rw [cut]
    exact List.mem_append_right _ (List.mem_cons_of_mem _ tried)

/-- A line that is read with success. -/
theorem line_read_and_unexported :
    let watched := run (Shelf.lines none).watched Shelf.console.beside ["gpio", "read", "0"] [] ({}, [])
    watched.1.code = 0 ∧ ∃ before after, watched.2.2 = before ++
      FileEvent.wrote ⟨"/sys/class/gpio/export"⟩ (Text.bytesOf "0") none :: after ∧
        FileEvent.wrote ⟨"/sys/class/gpio/unexport"⟩ (Text.bytesOf "0") none ∈ after := by
  intro watched
  obtain ⟨i, read, asks⟩ : ∃ i, Invocation.read ["gpio", "read", "0"] = .ok i ∧
      i.command = .readLine 0 := ⟨_, rfl, rfl⟩
  have outlet : (⟨"/sys/class/gpio"⟩ : Path).join "export" = ⟨"/sys/class/gpio/export"⟩ := by
    decide +kernel
  have inlet : (⟨"/sys/class/gpio"⟩ : Path).join "unexport" = ⟨"/sys/class/gpio/unexport"⟩ := by
    decide +kernel
  have success : watched.1.code = 0 := by decide +kernel
  have cut : watched.2.2 = watched.2.2.take 3 ++
      FileEvent.wrote ⟨"/sys/class/gpio/export"⟩ (Text.bytesOf "0") none :: watched.2.2.drop 4 := by
    decide +kernel
  refine ⟨success, _, _, cut, ?_⟩
  rcases (success_unexports_or_tries read [] (Shelf.lines none) Shelf.console {}).2 success
    ⟨"/sys/class/gpio"⟩ (Text.bytesOf "0") _ _ (outlet ▸ cut) with done | ⟨other, -⟩
  · exact inlet ▸ done
  · exact absurd asks (other 0)

/-- A line that is driven and read back with success although it stays exported: nobody can write to the
attribute that would unexport it. -/
theorem line_driven_and_left_exported :
    let fs := Shelf.lines (some ⟨"/sys/class/gpio/unexport"⟩)
    let watched := run fs.watched Shelf.console.beside ["gpio", "write", "0", "1"] [] ({}, [])
    watched.1.code = 0 ∧
      FileEvent.wrote ⟨"/sys/class/gpio/export"⟩ (Text.bytesOf "0") none ∈ watched.2.2 ∧
      FileEvent.wrote ⟨"/sys/class/gpio/unexport"⟩ (Text.bytesOf "0") none ∉ watched.2.2 := by
  decide +kernel

end CommandLine

end Peripherals

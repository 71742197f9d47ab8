import Peripherals.Proofs.Files.Watched
import Peripherals.Proofs.Path
/-!
Ports: the two files in a directory where the resources below it are exported and unexported. Main
statements: what a claim and a closing do at the ports, for lines and for channels, and that nothing
else a driver does comes near them.
-/

set_option autoImplicit false

namespace Peripherals

variable {φ F C α β : Type}

/-! ### Ports -/

/-- Where the resources of one kind are exported and unexported, where they are then, and what their
channels show of it. -/
structure Ports (C : Type) where
  dir : Path
  home : UInt32 → Path
  /-- The fault of a step of a claim that failed. -/
  fault? : FileEvent → Option Fault
  fault?_looked : ∀ path found, fault? (.looked path found) = none
  fault?_wrote : ∀ path bytes cause?,
    fault? (.wrote path bytes cause?) = cause?.map (Fault.ofIo path)
  solid : dir.Solid
  home_below : ∀ key, ∃ initial, dir.Below initial (home key) ∧ initial ≠ 'e' ∧ initial ≠ 'u'
  /-- The channel of the resource with this key. -/
  own : UInt32 → C → Prop
  /-- The resource was exported for the channel and is still to be unexported. -/
  marked : C → Bool

namespace Ports

variable (p : Ports C)

def outlet : Path := p.dir.join "export"

def inlet : Path := p.dir.join "unexport"

/-- The number of a resource was written to be exported. -/
def exporting (key : UInt32) (cause? : Option IoError) : FileEvent :=
  .wrote p.outlet (Text.bytesOf (Text.number key.toNat)) cause?

def unexporting (key : UInt32) (cause? : Option IoError) : FileEvent :=
  .wrote p.inlet (Text.bytesOf (Text.number key.toNat)) cause?

def IsPort (path : Path) : Prop :=
  path = p.outlet ∨ path = p.inlet

instance : DecidablePred p.IsPort := fun path =>
  inferInstanceAs (Decidable (path = p.outlet ∨ path = p.inlet))

def traffic (log : FileLog) : FileLog :=
  log.filter fun e => p.IsPort e.path

/-- What a claim does at the ports: nothing for a resource that was found; else it exports the
resource, and tries once to take the export back if the claim then fails. -/
inductive Opening (key : UInt32) : Bool → Option Fault → FileLog → Prop
  | found (fault? : Option Fault) : Opening key true fault? []
  | refused (e : IoError) :
    Opening key false (some (.ofIo p.outlet e)) [p.exporting key (some e)]
  | exported : Opening key false none [p.exporting key none]
  | undone (f : Fault) (cause? : Option IoError) :
    Opening key false (some f) [p.exporting key none, p.unexporting key cause?]

/-- What a closing does at the ports, and what becomes of the mark of an exported resource. -/
inductive Closing (key : UInt32) : Bool → Bool → Option Fault → FileLog → Prop
  | unmarked : Closing key false false none []
  | kept (e : IoError) :
    Closing key true true (some (.ofIo p.inlet e)) [p.unexporting key (some e)]
  | returned : Closing key true false none [p.unexporting key none]

/-- The log of a claim: it looks for the resource, deals with the ports, and fails as its first failing
step did. -/
structure Claimed (key : UInt32) (found : Bool) (fault? : Option Fault) (log : FileLog) : Prop where
  asked : ∃ rest, log = .looked (p.home key) found :: rest
  opening : p.Opening key found fault? (p.traffic log)
  first_fault : log.findSome? p.fault? = fault?

variable {p}

private theorem outlet_below (p : Ports C) : p.dir.Below 'e' p.outlet :=
  p.solid.below "export" (rfl : _ = 'e' :: "xport".toList)

private theorem inlet_below (p : Ports C) : p.dir.Below 'u' p.inlet :=
  p.solid.below "unexport" (rfl : _ = 'u' :: "nexport".toList)

theorem outlet_ne_inlet (p : Ports C) : p.outlet ≠ p.inlet :=
  p.outlet_below.ne p.inlet_below (by decide)

private theorem not_isPort {initial : Char} {path : Path} (below : p.dir.Below initial path)
    (apart : initial ≠ 'e' ∧ initial ≠ 'u') : ¬ p.IsPort path := by
  rintro (port | port)
  · exact below.ne p.outlet_below apart.1 port
  · exact below.ne p.inlet_below apart.2 port

theorem home_join (p : Ports C) (key : UInt32) (name : String) :
    ¬ p.IsPort ((p.home key).join name) := by
  obtain ⟨initial, below, apart⟩ := p.home_below key
  exact not_isPort (below.join name) apart

theorem traffic_append (log rest : FileLog) :
    p.traffic (log ++ rest) = p.traffic log ++ p.traffic rest :=
  List.filter_append _ _

theorem traffic_singleton {e : FileEvent} (other : ¬ p.IsPort e.path) : p.traffic [e] = [] := by
  simp [traffic, other]

private theorem traffic_looked (p : Ports C) (key : UInt32) (found : Bool) :
    p.traffic [.looked (p.home key) found] = [] := by
  obtain ⟨initial, below, apart⟩ := p.home_below key
  exact traffic_singleton (not_isPort below apart)

theorem traffic_exporting (p : Ports C) (key : UInt32) (cause? : Option IoError) :
    p.traffic [p.exporting key cause?] = [p.exporting key cause?] := by
  have port : p.IsPort (p.exporting key cause?).path := .inl rfl
  simp [traffic, port]

theorem traffic_unexporting (p : Ports C) (key : UInt32) (cause? : Option IoError) :
    p.traffic [p.unexporting key cause?] = [p.unexporting key cause?] := by
  have port : p.IsPort (p.unexporting key cause?).path := .inr rfl
  simp [traffic, port]

theorem mem_traffic {log : FileLog} {e : FileEvent} (port : p.IsPort e.path) :
    e ∈ p.traffic log ↔ e ∈ log := by
  simp [traffic, List.mem_filter, port]

theorem exporting_injective {key key' : UInt32} {cause? cause?' : Option IoError} :
    (p.exporting key cause? = p.exporting key' cause?' → key = key') ∧
      (p.unexporting key cause? = p.unexporting key' cause?' → key = key') := by
  have numbers (same : Text.bytesOf (Text.number key.toNat) = Text.bytesOf (Text.number key'.toNat)) :
      key = key' := UInt32.toNat_inj.mp (Text.bytesOf_number_injective same)
  constructor
  · intro same
    exact numbers (FileEvent.wrote.inj same).2.1
  · intro same
    exact numbers (FileEvent.wrote.inj same).2.1

theorem exporting_ne_unexporting {key key' : UInt32} {cause? cause?' : Option IoError} :
    p.exporting key cause? ≠ p.unexporting key' cause?' :=
  fun same => p.outlet_ne_inlet (FileEvent.wrote.inj same).1

/-! ### Calls of a driver -/

/-- Claims the resource with this key. A channel is marked if its resource was not found. -/
def Claims (p : Ports C) (key : UInt32) (x : Action Fault (φ × FileLog) C) : Prop :=
  Logs x fun log answer => ∃ found, p.Claimed key found (failure? answer) log ∧
    ∀ c, answer = .ok c → p.own key c ∧ p.marked c = !found

/-- Work on a channel that does not come near the ports. -/
def Passes (p : Ports C) (x : Action Fault ((φ × FileLog) × C) α) : Prop :=
  ∀ key q, p.own key q.2 → ∃ log, (x q).state.1.2 = q.1.2 ++ log ∧ p.traffic log = [] ∧
    p.own key (x q).state.2 ∧ p.marked (x q).state.2 = p.marked q.2

def Closes (p : Ports C) (x : Action Fault ((φ × FileLog) × C) Unit) : Prop :=
  ∀ key q, p.own key q.2 → ∃ log, (x q).state.1.2 = q.1.2 ++ log ∧ p.own key (x q).state.2 ∧
    p.Closing key (p.marked q.2) (p.marked (x q).state.2) (failure? (x q).answer) log

/-! ### Claims and closings -/

variable {key : UInt32} {out back : Action Fault (φ × FileLog) Unit}
  {present : Action Fault (φ × FileLog) Bool} {configure : Action Fault (φ × FileLog) α}

/-- The action writes a number at a port, and fails if the write does. -/
def Writes (x : Action Fault (φ × FileLog) Unit) (path : Path)
    (event : Option IoError → FileEvent) : Prop :=
  Logs x fun log answer =>
    ∃ cause?, log = [event cause?] ∧ failure? answer = cause?.map (Fault.ofIo path)

/-- The action stays away from the ports, and fails as its first failing step does. -/
def Steps (p : Ports C) (x : Action Fault (φ × FileLog) α) : Prop :=
  Logs x fun log answer => p.traffic log = [] ∧ log.findSome? p.fault? = failure? answer

theorem Steps.pure (p : Ports C) (a : α) : p.Steps (Pure.pure a : Action Fault (φ × FileLog) α) :=
  Logs.of_still (fun _ => rfl) fun _ => ⟨rfl, rfl⟩

theorem Steps.bind {x : Action Fault (φ × FileLog) α} {f : α → Action Fault (φ × FileLog) β}
    (hx : p.Steps x) (hf : ∀ a, p.Steps (f a)) : p.Steps (x >>= f) := by
  refine Logs.bind hx (fun log e steps => steps) fun log a steps => ?_
  obtain ⟨quiet, first⟩ := steps
  refine (hf a).weaken fun rest answer steps' => ?_
  obtain ⟨quiet', first'⟩ := steps'
  rw [traffic_append, quiet, quiet', List.findSome?_append, first, first']
  exact ⟨rfl, rfl⟩

theorem Steps.store (fs : FileSystem φ F) {path : Path} (other : ¬ p.IsPort path) (value : String) :
    p.Steps (Attribute.store fs.watched path value) := by
  refine (Logs.store fs path value).weaken fun log answer wrote => ?_
  obtain ⟨cause?, rfl, fails⟩ := wrote
  refine ⟨traffic_singleton other, ?_⟩
  simp only [List.findSome?_cons, List.findSome?_nil, p.fault?_wrote, fails]
  cases cause? <;> rfl

private theorem undo_logs (hback : Writes back p.inlet (p.unexporting key)) (report : Fault → Event) :
    Logs (Exporting.undo back report) fun log answer =>
      ∃ cause?, log = [p.unexporting key cause?] ∧ answer = .ok () := by
  refine Logs.bind hback.attempt (fun _ _ failed => failed.elim) fun log result tried => ?_
  obtain ⟨cause?, rfl, _⟩ := tried
  cases result with
  | ok u => exact .of_still (fun _ => rfl) fun _ => ⟨cause?, rfl, rfl⟩
  | error e => exact .of_still (fun _ => rfl) fun _ => ⟨cause?, rfl, rfl⟩

/-- The log of setting up a resource that this claim exported, or that it found. -/
private theorem settle_logs (make : Bool → α → C) (report : Fault → Event)
    (hback : Writes back p.inlet (p.unexporting key)) (hconfigure : p.Steps configure)
    (exported : Bool) :
    Logs (Exporting.settle (Exporting.undo back report) configure make exported)
      fun log answer => log.findSome? p.fault? = failure? answer ∧
        (∀ c, answer = .ok c → p.traffic log = [] ∧ ∃ a, c = make exported a) ∧
        ∀ f, answer = .error f → if exported = true then
          ∃ cause?, p.traffic log = [p.unexporting key cause?] else p.traffic log = [] := by
  refine Logs.bind hconfigure.attempt (fun _ _ failed => failed.elim) fun log result tried => ?_
  obtain ⟨quiet, first⟩ := tried
  cases result with
  | ok a =>
    refine .of_still (fun _ => rfl) fun _ => ?_
    rw [List.append_nil]
    exact ⟨first, fun c same => ⟨quiet, a, (Except.ok.inj same).symm⟩, fun f contra => nomatch contra⟩
  | error e =>
    have first_fault (rest : FileLog) : (log ++ rest).findSome? p.fault? = some e := by
      rw [List.findSome?_append, first]
      rfl
    cases exported with
    | false =>
      refine .of_still (fun _ => rfl) fun _ => ⟨first_fault [], (fun c contra => nomatch contra), ?_⟩
      intro f _
      rw [List.append_nil]
      exact quiet
    | true =>
      refine Logs.bind (undo_logs hback report) (fun rest e' failed => ?_) fun rest u undone => ?_
      · obtain ⟨_, _, contra⟩ := failed
        cases contra
      · obtain ⟨cause?, rfl, _⟩ := undone
        refine .of_still (fun _ => rfl) fun _ => ⟨first_fault _, (fun c contra => nomatch contra), ?_⟩
        intro f _
        refine ⟨cause?, ?_⟩
        rw [List.append_nil, traffic_append, quiet, traffic_unexporting]
        rfl

/-- What the rest of a claim does once it is known whether the resource is there. -/
private theorem rest_logs (make : Bool → α → C) (report : Fault → Event)
    (hout : Writes out p.outlet (p.exporting key)) (hback : Writes back p.inlet (p.unexporting key))
    (hconfigure : p.Steps configure) (found : Bool) :
    Logs (do
        if !found then out
        Exporting.settle (Exporting.undo back report) configure make (!found))
      fun log answer => log.findSome? p.fault? = failure? answer ∧
        p.Opening key found (failure? answer) (p.traffic log) ∧
        ∀ c, answer = .ok c → ∃ a, c = make (!found) a := by
  have settles := settle_logs make report hback hconfigure (!found)
  cases found with
  | true =>
    refine settles.weaken fun log answer settled => ?_
    obtain ⟨first, ok, error⟩ := settled
    have quiet : p.traffic log = [] := by
      cases answer with
      | ok c => exact (ok c rfl).1
      | error f => exact error f rfl
    rw [quiet]
    exact ⟨first, .found _, fun c same => (ok c same).2⟩
  | false =>
    have exports (cause? : Option IoError) (rest : FileLog) :
        (p.exporting key cause? :: rest).findSome? p.fault? =
            (cause?.map (Fault.ofIo p.outlet)).or (rest.findSome? p.fault?) ∧
          p.traffic (p.exporting key cause? :: rest) = p.exporting key cause? :: p.traffic rest := by
      constructor
      · rw [exporting, List.findSome?_cons, p.fault?_wrote]
        cases cause? <;> rfl
      · rw [← List.singleton_append, traffic_append, traffic_exporting, List.singleton_append]
    refine Logs.bind hout (fun log e failed => ?_) fun log u written => ?_
    · obtain ⟨cause?, rfl, fails⟩ := failed
      cases cause? with
      | none => cases fails
      | some e' =>
        obtain rfl := Option.some.inj fails
        rw [(exports _ _).1, (exports _ _).2]
        exact ⟨rfl, .refused e', fun c contra => nomatch contra⟩
    · obtain ⟨cause?, rfl, done⟩ := written
      cases cause? with
      | some e => cases done
      | none =>
        refine settles.weaken fun log answer settled => ?_
        obtain ⟨first, ok, error⟩ := settled
        rw [List.singleton_append, (exports _ _).1, (exports _ _).2]
        refine ⟨first, ?_, fun c same => (ok c same).2⟩
        cases answer with
        | ok c =>
          rw [(ok c rfl).1]
          exact .exported
        | error f =>
          obtain ⟨cause?, undone⟩ := error f rfl
          rw [undone]
          exact .undone f cause?

/-- A claim looks for the resource, deals with the ports and fails as its first failing step did. -/
theorem claims_of_steps (make : Bool → α → C)
    (makes : ∀ exported a, p.own key (make exported a) ∧ p.marked (make exported a) = exported)
    (report : Fault → Event)
    (hpresent : Logs present fun log answer =>
      ∃ found, answer = .ok found ∧ log = [.looked (p.home key) found])
    (hout : Writes out p.outlet (p.exporting key))
    (hback : Writes back p.inlet (p.unexporting key)) (hconfigure : p.Steps configure) :
    p.Claims key (Exporting.claim present out (Exporting.undo back report) configure make) := by
  refine Logs.bind hpresent (fun log e failed => ?_) fun log found asked => ?_
  · obtain ⟨_, contra, _⟩ := failed
    cases contra
  obtain ⟨_, same, rfl⟩ := asked
  obtain rfl := Except.ok.inj same
  refine (rest_logs make report hout hback hconfigure found).weaken fun rest answer told => ?_
  obtain ⟨first, opening, makings⟩ := told
  have asks : (FileEvent.looked (p.home key) found :: rest).findSome? p.fault? =
      rest.findSome? p.fault? := by
    rw [List.findSome?_cons, p.fault?_looked]
  refine ⟨found, ⟨⟨rest, rfl⟩, ?_, asks.trans first⟩, fun c same => ?_⟩
  · rw [traffic_append, traffic_looked]
    exact opening
  · obtain ⟨a, rfl⟩ := makings c same
    exact makes (!found) a

/-- A closing writes a marked resource to the port, and takes the mark off if that succeeds. -/
theorem closes_of_writes {backs : C → Action Fault (φ × FileLog) Unit} (unmark : C → C)
    (unmarks : ∀ c, p.marked (unmark c) = false ∧ ∀ key, p.own key c → p.own key (unmark c))
    (report : C → Event)
    (hback : ∀ key c, p.own key c → Writes (backs c) p.inlet (p.unexporting key)) :
    p.Closes (Exporting.close p.marked backs unmark report) := by
  rintro key ⟨q, c⟩ own
  rw [Exporting.close_apply]
  by_cases mark : p.marked c = true
  · rw [if_pos mark]
    obtain ⟨log, state, cause?, rfl, fails⟩ := hback key c own q
    have zoomed : (Action.zoom Lens.fst (backs c) : Action Fault ((φ × FileLog) × C) Unit) (q, c) =
        ⟨(backs c q).answer, (backs c q).events, ((backs c q).state, c)⟩ := rfl
    cases written : (backs c q).answer with
    | error f =>
      simp only [Action.bind_apply, zoomed, written]
      refine ⟨_, state, own, ?_⟩
      rw [written] at fails
      cases cause? with
      | none => cases fails
      | some e =>
        rw [mark, fails]
        exact .kept e
    | ok u =>
      simp only [Action.bind_apply, zoomed, written]
      refine ⟨_, state, (unmarks c).2 key own, ?_⟩
      rw [written] at fails
      cases cause? with
      | some e => cases fails
      | none =>
        change p.Closing key (p.marked c) (p.marked (unmark c)) none _
        rw [mark, (unmarks c).1]
        exact .returned
  · rw [if_neg mark]
    have unmarked : p.marked c = false := Bool.eq_false_iff.mpr mark
    refine ⟨[], (List.append_nil _).symm, own, ?_⟩
    change p.Closing key (p.marked c) (p.marked c) none []
    rw [unmarked]
    exact .unmarked

end Ports

end Peripherals

import Peripherals.Proofs.Desk.Tended
import Peripherals.Proofs.Files.Pledges
/-!
Kempt ports: the pledges of every resource are honored, or its lease shows that they are open. Main
statements: claims, uses and closings keep the ports kempt, and once no resource is leased the log is
tidy.
-/

set_option autoImplicit false

namespace Peripherals

variable {φ S C : Type}

namespace Ports

/-- The resources below the directory are named by one stem and their number. -/
structure Numbered (p : Ports C) (stem : String) : Prop where
  home : ∀ key, p.home key = p.dir.join (Path.numbered stem key)
  clean : '/' ∉ stem.toList

private theorem Numbered.home_solid {p : Ports C} {stem : String} (numbered : p.Numbered stem)
    (key : UInt32) :
    (p.home key).Solid := by
  rw [numbered.home key]
  obtain ⟨front, last, text, other⟩ := (Path.numbered_text stem key).1
  exact Path.solid_join _ _ text other

private theorem Numbered.home_injective {p : Ports C} {stem : String} (numbered : p.Numbered stem)
    {key key' : UInt32} (same : p.home key = p.home key') : key = key' := by
  rw [numbered.home, numbered.home] at same
  exact Path.numbered_injective
    (Path.join_inj (Path.clean_numbered numbered.clean _) (Path.clean_numbered numbered.clean _) same).1

variable (p : Ports C)

def exports (key : UInt32) : Pledge :=
  .ofExport p.dir (Text.bytesOf (Text.number key.toNat))

def switch (key : UInt32) : Pledge :=
  .ofSwitch p.dir (p.home key) (Text.bytesOf (Text.number key.toNat))

/-- What a driver asks of the files for one resource. -/
inductive About (key : UInt32) : FileEvent → Prop
  | looked (path : Path) (found : Bool) : About key (.looked path found)
  | opened (path : Path) (cause? : Option IoError) : About key (.opened path cause?)
  | exporting (cause? : Option IoError) : About key (p.exporting key cause?)
  | unexporting (cause? : Option IoError) : About key (p.unexporting key cause?)
  | setting (name value : String) (cause? : Option IoError) (clean : '/' ∉ name.toList)
    (other : name ≠ "export") :
    About key (.wrote ((p.home key).join name) (Text.bytesOf value) cause?)

/-- What a driver asks for one resource without switching it on. -/
def Mild (key : UInt32) (e : FileEvent) : Prop :=
  p.About key e ∧ e ≠ (p.switch key).made

/-- Every event is about some resource. -/
def Charted (log : FileLog) : Prop :=
  ∀ e ∈ log, ∃ key, p.About key e

variable {p} {key : UInt32}

private theorem made_exports : (p.exports key).made = p.exporting key none := rfl

private theorem Charted.append {log rest : FileLog} (charted : p.Charted log)
    (about : ∀ e ∈ rest, p.About key e) : p.Charted (log ++ rest) := by
  intro e member
  rcases List.mem_append.mp member with early | late
  · exact charted e early
  · exact ⟨key, about e late⟩

private theorem ports_ne_attribute (key' : UInt32) (name : String) (bytes bytes' : List UInt8)
    (cause? cause?' : Option IoError) :
    FileEvent.wrote p.outlet bytes cause? ≠ .wrote ((p.home key').join name) bytes' cause?' ∧
      FileEvent.wrote p.inlet bytes cause? ≠ .wrote ((p.home key').join name) bytes' cause?' := by
  constructor
  · intro same
    exact p.home_join key' name (.inl (FileEvent.wrote.inj same).1.symm)
  · intro same
    exact p.home_join key' name (.inr (FileEvent.wrote.inj same).1.symm)

private theorem About.apart {stem : String} (numbered : p.Numbered stem) {e : FileEvent}
    (about : p.About key e) {other : UInt32} (differs : other ≠ key) :
    e ≠ (p.exports other).made ∧ e ≠ (p.switch other).made ∧ ¬ (p.switch other).barred e := by
  cases about with
  | looked path found | opened path cause? =>
    refine ⟨fun same => ?_, fun same => ?_, fun spoils => ?_⟩
    · cases same
    · cases same
    · obtain ⟨_, same⟩ := spoils
      cases same
  | exporting cause? =>
    refine ⟨fun same => differs (exporting_injective.1 same).symm, ?_, fun spoils => ?_⟩
    · exact (p.ports_ne_attribute _ _ _ _ _ _).1
    · obtain ⟨_, same⟩ := spoils
      exact exporting_ne_unexporting same
  | unexporting cause? =>
    refine ⟨fun same => exporting_ne_unexporting same.symm, ?_, fun spoils => ?_⟩
    · exact (p.ports_ne_attribute _ _ _ _ _ _).2
    · obtain ⟨_, same⟩ := spoils
      exact differs (exporting_injective.2 same).symm
  | setting name value cause? clean other' =>
    refine ⟨?_, fun same => ?_, fun spoils => ?_⟩
    · exact (p.ports_ne_attribute _ _ _ _ _ _).1.symm
    · have homes := Path.Solid.join_inj (numbered.home_solid _) (numbered.home_solid _) clean
        (by decide) (FileEvent.wrote.inj same).1
      exact differs (numbered.home_injective homes.1).symm
    · obtain ⟨_, same⟩ := spoils
      exact (p.ports_ne_attribute _ _ _ _ _ _).2.symm same

theorem mild_looked (path : Path) (found : Bool) : p.Mild key (.looked path found) :=
  ⟨.looked path found, fun same => by cases same⟩

theorem mild_opened (path : Path) (cause? : Option IoError) : p.Mild key (.opened path cause?) :=
  ⟨.opened path cause?, fun same => by cases same⟩

theorem mild_exporting (cause? : Option IoError) :
    p.Mild key (p.exporting key cause?) ∧ p.Mild key (p.unexporting key cause?) :=
  ⟨⟨.exporting cause?, (p.ports_ne_attribute _ _ _ _ _ _).1⟩,
    ⟨.unexporting cause?, (p.ports_ne_attribute _ _ _ _ _ _).2⟩⟩

theorem mild_setting {stem : String} (numbered : p.Numbered stem) {name value : String}
    (clean : '/' ∉ name.toList) (other : name ≠ "export") (mild : name = "enable" → value = "0")
    (cause? : Option IoError) :
    p.Mild key (.wrote ((p.home key).join name) (Text.bytesOf value) cause?) := by
  refine ⟨.setting name value cause? clean other, fun same => ?_⟩
  obtain ⟨paths, values, _⟩ := FileEvent.wrote.inj same
  obtain ⟨_, names⟩ := Path.Solid.join_inj (numbered.home_solid key) (numbered.home_solid key) clean
    (by decide) paths
  rw [mild names] at values
  exact absurd values (by decide)

private theorem honored_of_traffic {log : FileLog} (honored : (p.exports key).Honored (p.traffic log)) :
    (p.exports key).Honored log := by
  rintro before after rfl
  have cut : p.traffic (before ++ (p.exports key).made :: after) =
      p.traffic before ++ (p.exports key).made :: p.traffic after := by
    rw [← List.singleton_append, traffic_append, traffic_append, made_exports, traffic_exporting]
    rfl
  obtain ⟨mid, e, rest, later, redeems, _⟩ := honored _ _ cut
  have member : e ∈ p.traffic after := by
    rw [later]
    simp
  obtain ⟨mid', rest', rfl⟩ := List.append_of_mem (List.mem_of_mem_filter member)
  exact ⟨mid', e, rest', rfl, redeems, fun _ _ => id⟩

private theorem honored_of_unexporting (log : FileLog) (cause? : Option IoError) :
    (p.exports key).Honored (log ++ [p.unexporting key cause?]) :=
  Pledge.Pending.redeem (Pledge.pending_of_unbarred fun _ => id) ⟨cause?, rfl⟩
    fun same => exporting_ne_unexporting same.symm

private theorem unmade_of_quiet {log : FileLog} (quiet : p.traffic log = []) :
    (p.exports key).made ∉ log ∧ ∀ e ∈ log, ¬ (p.switch key).barred e := by
  have nothing {e : FileEvent} (port : p.IsPort e.path) : e ∉ log := by
    rw [← mem_traffic port, quiet]
    exact List.not_mem_nil
  refine ⟨nothing (.inl rfl), fun e member spoils => ?_⟩
  obtain ⟨cause?, rfl⟩ := spoils
  exact nothing (.inr rfl) member

end Ports

/-- All that was asked of the files was for some resource, and the pledges of the resource with this
key are honored; while it is leased they may be open, as the lease shows by the mark of an export and
by the record of a running output. -/
def Kempt (p : Ports C) (running : S → Bool) : KeyProperty (φ × FileLog) S C
  | key, q, none =>
    p.Charted q.2 ∧ (p.exports key).Honored q.2 ∧ (p.switch key).Honored q.2
  | key, q, some lease => p.Charted q.2 ∧ p.own key lease.channel ∧
    (p.marked lease.channel = false → (p.exports key).Honored q.2) ∧ (p.switch key).Pending q.2 ∧
      (running lease.settings = false → (p.switch key).Honored q.2)

namespace Kempt

variable {p : Ports C} {running : S → Bool} {key : UInt32} {q q' : φ × FileLog} {log : FileLog}
  {lease : Lease S C}

private theorem charted {l : Option (Lease S C)} (kempt : Kempt p running key q l) : p.Charted q.2 := by
  cases l with
  | none => exact kempt.1
  | some lease => exact kempt.1

/-- What is asked for one resource keeps all others kempt. -/
theorem other {stem : String} (numbered : p.Numbered stem) {l : Option (Lease S C)} {other : UInt32}
    (kempt : Kempt p running other q l) (state : q'.2 = q.2 ++ log)
    (about : ∀ e ∈ log, p.About key e) (differs : other ≠ key) : Kempt p running other q' l := by
  have charted := kempt.charted.append about
  have unmade : (p.exports other).made ∉ log ∧ (p.switch other).made ∉ log :=
    ⟨fun member => ((about _ member).apart numbered differs).1 rfl,
      fun member => ((about _ member).apart numbered differs).2.1 rfl⟩
  have free : ∀ e ∈ log, ¬ (p.switch other).barred e :=
    fun e member => ((about e member).apart numbered differs).2.2
  rw [← state] at charted
  cases l with
  | none =>
    obtain ⟨_, exports, switch⟩ := kempt
    refine ⟨charted, ?_, ?_⟩
    · rw [state]
      exact exports.append unmade.1
    · rw [state]
      exact switch.append unmade.2
  | some lease =>
    obtain ⟨_, own, exports, pending, switch⟩ := kempt
    refine ⟨charted, own, fun unmarked => ?_, ?_, fun still => ?_⟩
    · rw [state]
      exact (exports unmarked).append unmade.1
    · rw [state]
      exact pending.append free
    · rw [state]
      exact (switch still).append unmade.2

/-- A claim that switches nothing on leaves its resource kempt, with a lease or without one. -/
theorem claim (kempt : Kempt (S := S) p running key q none) {x : Action Fault (φ × FileLog) C}
    (claims : p.Claims key x)
    (mild : Logs x fun log _ => ∀ e ∈ log, p.Mild key e) :
    (∃ log, (x q).state.2 = q.2 ++ log ∧ ∀ e ∈ log, p.About key e) ∧
    (∀ f, (x q).answer = .error f → Kempt (S := S) p running key (x q).state none) ∧
    ∀ c (s : S), (x q).answer = .ok c → Kempt p running key (x q).state (some ⟨s, c⟩) := by
  obtain ⟨charted, exports, switch⟩ := kempt
  obtain ⟨log, state, found, claimed, opens⟩ := claims q
  obtain ⟨log', state', about⟩ := mild q
  obtain rfl := List.append_cancel_left (state.symm.trans state')
  have charted' := charted.append fun e member => (about e member).1
  have switch' : (p.switch key).Honored (q.2 ++ log) :=
    switch.append fun member => (about _ member).2 rfl
  have exports' : (p.exports key).Honored (q.2 ++ log) ∨
      failure? (x q).answer = none ∧ found = false := by
    have opening := claimed.opening
    generalize failure? (x q).answer = fault? at opening
    generalize traffic : p.traffic log = passed at opening
    cases opening with
    | found fault? => exact .inl (exports.append (Ports.unmade_of_quiet traffic).1)
    | refused e =>
      refine .inl (exports.append fun member => ?_)
      rw [← Ports.mem_traffic (.inl rfl), traffic, List.mem_singleton] at member
      cases member
    | exported => exact .inr ⟨rfl, rfl⟩
    | undone f cause? =>
      refine .inl (Ports.honored_of_traffic ?_)
      rw [Ports.traffic_append, traffic]
      have settled : (p.exports key).Honored
          (p.traffic q.2 ++ [p.exporting key none] ++ [p.unexporting key cause?]) :=
        Ports.honored_of_unexporting _ cause?
      rw [List.append_assoc] at settled
      exact settled
  refine ⟨⟨log, state, fun e member => (about e member).1⟩, fun f failed => ?_, fun c s opened => ?_⟩
  · rw [failed] at exports'
    refine ⟨state ▸ charted', state ▸ ?_, state ▸ switch'⟩
    rcases exports' with honored | ⟨contra, _⟩
    · exact honored
    · cases contra
  · obtain ⟨own, marked⟩ := opens c opened
    refine ⟨state ▸ charted', own, fun unmarked => state ▸ ?_, state ▸ switch'.pending,
      fun _ => state ▸ switch'⟩
    rcases exports' with honored | ⟨_, rfl⟩
    · exact honored
    · rw [marked] at unmarked
      cases unmarked

theorem use (kempt : Kempt p running key q (some lease)) {s : S} {c : C} (state : q'.2 = q.2 ++ log)
    (about : ∀ e ∈ log, p.About key e) (quiet : p.traffic log = []) (own : p.own key c)
    (marked : p.marked c = p.marked lease.channel)
    (rests : running s = false → (p.switch key).Honored q'.2) :
    Kempt p running key q' (some ⟨s, c⟩) := by
  obtain ⟨charted, _, exports, pending, _⟩ := kempt
  have unmade : (p.exports key).made ∉ log := (Ports.unmade_of_quiet quiet).1
  have free : ∀ e ∈ log, ¬ (p.switch key).barred e := (Ports.unmade_of_quiet quiet).2
  refine ⟨?_, own, fun unmarked => ?_, ?_, rests⟩
  · rw [state]
    exact charted.append about
  · rw [state]
    exact (exports (marked ▸ unmarked)).append unmade
  · rw [state]
    exact pending.append free

/-- Once a resource is switched off, closing it settles all, whether or not it succeeds. -/
theorem close (kempt : Kempt p running key q (some lease)) (rests : (p.switch key).Honored q.2)
    {x : Action Fault ((φ × FileLog) × C) Unit} (closes : p.Closes x) :
    (∃ log, (x (q, lease.channel)).state.1.2 = q.2 ++ log ∧ ∀ e ∈ log, p.About key e) ∧
    Kempt (S := S) p running key (x (q, lease.channel)).state.1 none ∧
    ∀ s : S, Kempt p running key (x (q, lease.channel)).state.1
      (some ⟨s, (x (q, lease.channel)).state.2⟩) := by
  obtain ⟨charted, own, exports, _, _⟩ := kempt
  obtain ⟨log, state, own', closing⟩ := closes key (q, lease.channel) own
  have settles : (∀ e ∈ log, p.Mild key e) ∧ (p.exports key).Honored (q.2 ++ log) := by
    have returns (cause? : Option IoError) : ∀ e ∈ [p.unexporting key cause?], p.Mild key e := by
      intro e member
      obtain rfl := List.mem_singleton.mp member
      exact (p.mild_exporting cause?).2
    generalize unmarked : p.marked lease.channel = marked at closing
    generalize p.marked (x (q, lease.channel)).state.2 = marked' at closing
    generalize failure? (x (q, lease.channel)).answer = fault? at closing
    cases closing with
    | unmarked =>
      refine ⟨fun e member => absurd member List.not_mem_nil, ?_⟩
      rw [List.append_nil]
      exact exports unmarked
    | kept e => exact ⟨returns _, p.honored_of_unexporting _ _⟩
    | returned => exact ⟨returns _, p.honored_of_unexporting _ _⟩
  have charted' := charted.append fun e member => (settles.1 e member).1
  have switch' := rests.append fun member => (settles.1 _ member).2 rfl
  refine ⟨⟨log, state, fun e member => (settles.1 e member).1⟩, ?_, fun s => ?_⟩
  · exact ⟨state ▸ charted', state ▸ settles.2, state ▸ switch'⟩
  · exact ⟨state ▸ charted', own', fun _ => state ▸ settles.2, state ▸ switch'.pending,
      fun _ => state ▸ switch'⟩

end Kempt

/-- Nothing was written. -/
def FileLog.Unwritten (log : FileLog) : Prop :=
  ∀ path bytes cause?, FileEvent.wrote path bytes cause? ∉ log

theorem FileLog.Unwritten.tidy {log : FileLog} (unwritten : log.Unwritten) : log.Tidy :=
  ⟨fun _ _ => Pledge.honored_of_unmade (unwritten _ _ _),
    fun _ _ => Pledge.honored_of_unmade (unwritten _ _ _)⟩

namespace Kempt

variable {p : Ports C} {running : S → Bool}

theorem start (key : UInt32) {q : φ × FileLog} (unwritten : q.2.Unwritten) :
    Kempt (S := S) p running key q none := by
  refine ⟨fun e member => ⟨key, ?_⟩, ?_⟩
  · cases e with
    | looked path found => exact .looked path found
    | opened path cause? => exact .opened path cause?
    | wrote path bytes cause? => exact absurd member (unwritten path bytes cause?)
  · exact ⟨Pledge.honored_of_unmade (unwritten _ _ _), Pledge.honored_of_unmade (unwritten _ _ _)⟩

section

variable {stem : String} {q : φ × FileLog}

private theorem honored_export (kempt : ∀ key, Kempt (S := S) p running key q none) (dir : Path)
    (bytes : List UInt8) : (Pledge.ofExport dir bytes).Honored q.2 := by
  intro before after cut
  have member : (Pledge.ofExport dir bytes).made ∈ q.2 := by
    rw [cut]
    simp
  obtain ⟨key, about⟩ := (kempt 0).1 _ member
  generalize event : (Pledge.ofExport dir bytes).made = e at about
  cases about with
  | looked path found | opened path cause? => cases event
  | unexporting cause? =>
    exact absurd (Path.join_inj (by decide) (by decide) (FileEvent.wrote.inj event).1).1 (by decide)
  | setting name value cause? clean other =>
    exact absurd (Path.join_inj (by decide) clean (FileEvent.wrote.inj event).1).1.symm other
  | exporting cause? =>
    obtain ⟨same, rfl, rfl⟩ := FileEvent.wrote.inj event
    rw [event] at cut
    have ports := (Path.join_inj (by decide) (by decide) same).2
    obtain ⟨mid, e, rest, later, redeems, free⟩ := (kempt key).2.1 before after cut
    refine ⟨mid, e, rest, later, ?_, free⟩
    obtain ⟨cause?, rfl⟩ := redeems
    exact ⟨cause?, congrArg (FileEvent.wrote · _ _) (ports "unexport").symm⟩

/-- Every output that was switched on is that of one of the ports, which switches it off. -/
private theorem honored_switch (numbered : p.Numbered stem)
    (tells : ∀ pin key, Path.numbered "pwm" pin = Path.numbered stem key → pin = key)
    (kempt : ∀ key, Kempt (S := S) p running key q none) (chip : Path) (pin : UInt32) :
    (Pledge.ofSwitch chip (chip.join (Path.numbered "pwm" pin))
      (Text.bytesOf (Text.number pin.toNat))).Honored q.2 := by
  intro before after cut
  have member : (Pledge.ofSwitch chip (chip.join (Path.numbered "pwm" pin))
      (Text.bytesOf (Text.number pin.toNat))).made ∈ q.2 := by
    rw [cut]
    simp
  obtain ⟨key, about⟩ := (kempt 0).1 _ member
  generalize event : (Pledge.ofSwitch chip (chip.join (Path.numbered "pwm" pin))
    (Text.bytesOf (Text.number pin.toNat))).made = e at about
  cases about with
  | looked path found | opened path cause? => cases event
  | exporting cause? | unexporting cause? =>
    exact absurd (Path.join_inj (by decide) (by decide) (FileEvent.wrote.inj event).1).1 (by decide)
  | setting name value cause? clean other =>
    obtain ⟨front, last, text, open_end⟩ := (Path.numbered_text "pwm" pin).1
    have homes := Path.Solid.join_inj (Path.solid_join chip _ text open_end)
      (numbered.home_solid key) (by decide) clean (FileEvent.wrote.inj event).1
    have below := homes.1
    rw [numbered.home key] at below
    obtain ⟨names, ports⟩ := Path.join_inj (Path.clean_numbered (by decide) pin)
      (Path.clean_numbered numbered.clean key) below
    obtain rfl := tells pin key names
    have same : (p.switch pin).made = (Pledge.ofSwitch chip (chip.join (Path.numbered "pwm" pin))
        (Text.bytesOf (Text.number pin.toNat))).made :=
      congrArg (fun home : Path => FileEvent.wrote (home.join "enable") _ none) homes.1.symm
    obtain ⟨mid, e, rest, later, redeems, free⟩ := (kempt pin).2.2 before after (same ▸ cut)
    refine ⟨mid, e, rest, later, ?_, fun x member spoils => free x member ?_⟩
    · obtain ⟨cause?, rfl⟩ := redeems
      exact ⟨cause?, congrArg (fun home : Path => FileEvent.wrote (home.join "enable") _ _) homes.1.symm⟩
    · obtain ⟨cause?, rfl⟩ := spoils
      exact ⟨cause?, congrArg (FileEvent.wrote · _ _) (ports "unexport")⟩

/-- Where all ports are kempt and nothing is leased, the log is tidy. -/
theorem tidy (numbered : p.Numbered stem)
    (tells : ∀ pin key, Path.numbered "pwm" pin = Path.numbered stem key → pin = key)
    (kempt : ∀ key, Kempt (S := S) p running key q none) : q.2.Tidy :=
  ⟨honored_export kempt, honored_switch numbered tells kempt⟩

end

end Kempt

end Peripherals

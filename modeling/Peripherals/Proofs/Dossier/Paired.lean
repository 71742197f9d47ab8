import Peripherals.Proofs.Desk.Tended
import Peripherals.Proofs.Dossier.Basic
/-!
Exports and unexports in a dossier. Main statements: every call of a driver that deals with its ports
properly leaves each unexport paired with the export of its own channel, and the numbers balanced as
long as no unexport fails.
-/

set_option autoImplicit false

namespace Peripherals

variable {φ S T V C A α : Type}

namespace Ports

variable (p : Ports C)

/-- All that passes the ports about one channel, and whether an unexport is owed after it. The resource
is exported at most once, and unexported once after any number of failures. -/
inductive Story (key : UInt32) : FileLog → Bool → Prop
  | untouched : Story key [] false
  | refused (e : IoError) : Story key [p.exporting key (some e)] false
  | exported (failures : List IoError) :
    Story key (p.exporting key none :: failures.map fun e => p.unexporting key (some e)) true
  | returned (failures : List IoError) :
    Story key ((p.exporting key none :: failures.map fun e => p.unexporting key (some e)) ++
      [p.unexporting key none]) false

variable {p} {key : UInt32}

theorem Opening.story {found : Bool} {fault? : Option Fault} {log : FileLog}
    (opening : p.Opening key found fault? log) :
    ∃ owed, p.Story key log owed ∧ (fault? = none → owed = !found) := by
  cases opening with
  | found fault? => exact ⟨false, .untouched, fun _ => rfl⟩
  | refused e => exact ⟨false, .refused e, fun ok => nomatch ok⟩
  | exported => exact ⟨true, .exported [], fun _ => rfl⟩
  | undone f cause? =>
    cases cause? with
    | some e => exact ⟨true, .exported [e], fun ok => nomatch ok⟩
    | none => exact ⟨false, .returned [], fun ok => nomatch ok⟩

theorem Closing.story {marked marked' : Bool} {fault? : Option Fault} {log past : FileLog}
    (closing : p.Closing key marked marked' fault? log) (story : p.Story key past marked) :
    p.Story key (past ++ log) marked' := by
  cases closing with
  | unmarked =>
    rw [List.append_nil]
    exact story
  | kept e =>
    cases story with
    | exported failures =>
      have longer : p.Story key (_ :: (failures ++ [e]).map _) true := .exported (failures ++ [e])
      rw [List.map_append, ← List.cons_append] at longer
      exact longer
  | returned =>
    cases story with
    | exported failures => exact .returned failures

theorem Story.unowed {owed : Bool} (story : p.Story key [] owed) : owed = false := by
  cases story with
  | untouched => rfl

theorem Opening.balance {found : Bool} {fault? : Option Fault} {log : FileLog}
    (opening : p.Opening key found fault? log) (unfailed : ∀ e, p.unexporting key (some e) ∉ log) :
    log.count (p.exporting key none) =
      log.count (p.unexporting key none) + (fault?.isNone && !found).toNat := by
  have apart := p.outlet_ne_inlet
  cases opening with
  | found fault? => simp
  | refused e => simp [exporting, unexporting]
  | exported => simp [exporting, unexporting, apart]
  | undone f cause? =>
    cases cause? with
    | some e => exact absurd (by simp) (unfailed e)
    | none => simp [exporting, unexporting, apart, apart.symm]

theorem Closing.balance {marked marked' : Bool} {fault? : Option Fault} {log : FileLog}
    (closing : p.Closing key marked marked' fault? log)
    (unfailed : ∀ e, p.unexporting key (some e) ∉ log) :
    marked' = false ∧
      log.count (p.exporting key none) + marked.toNat = log.count (p.unexporting key none) := by
  have apart := p.outlet_ne_inlet
  cases closing with
  | unmarked => exact ⟨rfl, rfl⟩
  | kept e => exact absurd (by simp) (unfailed e)
  | returned => simp [exporting, unexporting, apart.symm]

private theorem count_traffic {log : FileLog} {e : FileEvent} (port : p.IsPort e.path) :
    (p.traffic log).count e = log.count e :=
  List.count_filter (decide_eq_true port)

theorem Closing.of_unmarked {marked' : Bool} {fault? : Option Fault} {log : FileLog}
    (closing : p.Closing key false marked' fault? log) : log = [] := by
  cases closing with
  | unmarked => rfl

theorem Closing.traffic_eq {marked marked' : Bool} {fault? : Option Fault} {log : FileLog}
    (closing : p.Closing key marked marked' fault? log) : p.traffic log = log := by
  cases closing with
  | unmarked => rfl
  | kept e => exact p.traffic_unexporting key _
  | returned => exact p.traffic_unexporting key _

end Ports

namespace Record

/-- A record of a call that dealt with the ports as its kind of call should. -/
def Fair (p : Ports C) (r : Record T V) : Prop :=
  match r.act with
  | .claim _ => ∃ found, p.Claimed r.tag.key found r.fault? r.files
  | .use _ => p.traffic r.files = []
  | .close => ∃ marked marked', p.Closing r.tag.key marked marked' r.fault? (p.traffic r.files)

private theorem Fair.number {p : Ports C} {r : Record T V} (fair : r.Fair p) {e : FileEvent}
    (passes : e ∈ p.traffic r.files) :
    ∃ cause?, e = p.exporting r.tag.key cause? ∨ e = p.unexporting r.tag.key cause? := by
  unfold Fair at fair
  split at fair
  · obtain ⟨found, claimed⟩ := fair
    have opening := claimed.opening
    generalize p.traffic r.files = log, r.fault? = fault? at passes opening
    cases opening with
    | found => cases passes
    | refused e' => exact ⟨_, .inl (List.mem_singleton.mp passes)⟩
    | exported => exact ⟨_, .inl (List.mem_singleton.mp passes)⟩
    | undone f cause? =>
      rcases List.mem_cons.mp passes with first | last
      · exact ⟨_, .inl first⟩
      · exact ⟨_, .inr (List.mem_singleton.mp last)⟩
  · rw [fair] at passes
    cases passes
  · obtain ⟨marked, marked', closing⟩ := fair
    generalize p.traffic r.files = log, r.fault? = fault? at passes closing
    cases closing with
    | unmarked => cases passes
    | kept e' => exact ⟨_, .inr (List.mem_singleton.mp passes)⟩
    | returned => exact ⟨_, .inr (List.mem_singleton.mp passes)⟩

end Record

/-! ### Pairs -/

namespace Dossier

variable (p : Ports C) (dossier : Dossier T V)

def story (tag : Tag) : FileLog :=
  p.traffic (files (dossier.filter fun r => r.tag = tag))

/-- The channel was opened, by the call at its place. -/
def Granted (tag : Tag) : Prop :=
  ∃ r t, dossier[tag.serial]? = some r ∧ r.tag = tag ∧ r.act = .claim t ∧ r.fault? = none

/-- A claim has the place that its channel is named after, and any other call comes after the claim
that opened its channel. -/
def Placed (i : Nat) (r : Record T V) : Prop :=
  ((∃ t, r.act = .claim t) ∧ r.tag.serial = i) ∨
    ((∀ t, r.act ≠ .claim t) ∧ r.tag.serial < i ∧ dossier.Granted r.tag)

/-- Every unexport belongs to the export of its own channel. -/
structure Paired : Prop where
  placed : ∀ i r, dossier[i]? = some r → dossier.Placed i r
  fair : ∀ r ∈ dossier, r.Fair p
  stories : ∀ tag, ∃ owed, p.Story tag.key (dossier.story p tag) owed
  /-- A resource that was found is never unexported for the channel. -/
  spared : ∀ r ∈ dossier, ∀ t, r.act = .claim t → p.Claimed r.tag.key true r.fault? r.files →
    dossier.story p r.tag = []

/-- If no unexport of the number failed, there were as many as exports, but for one that is owed. -/
def Balanced (key : UInt32) (owed : Bool) : Prop :=
  (∀ e, p.unexporting key (some e) ∉ dossier.files) →
    dossier.files.count (p.exporting key none) =
      dossier.files.count (p.unexporting key none) + owed.toNat

/-- A channel as the dossier has it: it was opened, and it is marked if its unexport is owed. -/
structure Tied (key : UInt32) (c : Tagged C) : Prop where
  at_key : c.tag.key = key
  own : p.own key c.channel
  granted : dossier.Granted c.tag
  story : p.Story key (dossier.story p c.tag) (p.marked c.channel)

variable {p} {dossier}

theorem files_concat (dossier : Dossier T V) (r : Record T V) :
    (dossier ++ [r]).files = dossier.files ++ r.files := by
  simp [files]

theorem story_concat (dossier : Dossier T V) (r : Record T V) (tag : Tag) :
    (dossier ++ [r]).story p tag =
      if r.tag = tag then dossier.story p tag ++ p.traffic r.files else dossier.story p tag := by
  unfold story
  by_cases about : r.tag = tag
  · rw [if_pos about, List.filter_append, List.filter_cons_of_pos (by simpa using about),
      List.filter_nil, files_concat, Ports.traffic_append]
  · rw [if_neg about, List.filter_append, List.filter_cons_of_neg (by simpa using about),
      List.filter_nil, List.append_nil]

private theorem Granted.concat {tag : Tag} (granted : dossier.Granted tag) (r : Record T V) :
    (dossier ++ [r]).Granted tag := by
  obtain ⟨first, t, place, about⟩ := granted
  have inside : tag.serial < dossier.length := (List.getElem?_eq_some_iff.mp place).1
  exact ⟨first, t, (List.getElem?_append_left inside).trans place, about⟩

theorem Granted.serial_lt {tag : Tag} (granted : dossier.Granted tag) :
    tag.serial < dossier.length := by
  obtain ⟨first, t, place, _⟩ := granted
  exact (List.getElem?_eq_some_iff.mp place).1

private theorem Placed.concat {i : Nat} {r : Record T V} (placed : dossier.Placed i r)
    (r' : Record T V) :
    (dossier ++ [r']).Placed i r := by
  rcases placed with claim | ⟨other, before, granted⟩
  · exact .inl claim
  · exact .inr ⟨other, before, granted.concat r'⟩

private theorem Placed.serial_of_claim {i : Nat} {r : Record T V} (placed : dossier.Placed i r) {t : T}
    (claim : r.act = .claim t) : r.tag.serial = i := by
  rcases placed with ⟨_, here⟩ | ⟨other, _⟩
  · exact here
  · exact absurd claim (other t)

private theorem Paired.serial_lt (paired : dossier.Paired p) {r : Record T V} (member : r ∈ dossier) :
    r.tag.serial < dossier.length := by
  obtain ⟨i, place⟩ := List.mem_iff_getElem?.mp member
  have inside : i < dossier.length := (List.getElem?_eq_some_iff.mp place).1
  rcases paired.placed i r place with ⟨_, here⟩ | ⟨_, before, _⟩
  · omega
  · omega

theorem Paired.story_fresh (paired : dossier.Paired p) {tag : Tag}
    (fresh : tag.serial = dossier.length) : dossier.story p tag = [] := by
  have none_about : (dossier.filter fun r => r.tag = tag) = [] := by
    refine List.filter_eq_nil_iff.mpr fun r member about => ?_
    have old := paired.serial_lt member
    rw [of_decide_eq_true about, fresh] at old
    exact Nat.lt_irrefl _ old
  rw [story, none_about]
  rfl

private theorem Paired.spared_concat (paired : dossier.Paired p) {r : Record T V}
    (placed : dossier.Placed dossier.length r)
    (spares : (∀ t, r.act ≠ .claim t) → dossier.story p r.tag = [] → p.traffic r.files = [])
    {r' : Record T V} (old : r' ∈ dossier) {t : T} (claim : r'.act = .claim t)
    (found : p.Claimed r'.tag.key true r'.fault? r'.files) :
    (dossier ++ [r]).story p r'.tag = [] := by
  have past := paired.spared r' old t claim found
  rw [story_concat]
  split
  · next about =>
    rw [about] at spares
    -- A claim of this name would stand at the end, where the old one does not.
    have other (t' : T) : r.act ≠ .claim t' := by
      intro claim'
      have before := paired.serial_lt old
      rw [← about, placed.serial_of_claim claim'] at before
      exact Nat.lt_irrefl _ before
    rw [past, spares other past]
    rfl
  · exact past

/-- One more fair call, which goes with what its channel told before. -/
theorem Paired.concat (paired : dossier.Paired p) {r : Record T V} (fair : r.Fair p)
    (placed : dossier.Placed dossier.length r)
    (story : ∃ owed, p.Story r.tag.key (dossier.story p r.tag ++ p.traffic r.files) owed)
    (spares : (∀ t, r.act ≠ .claim t) → dossier.story p r.tag = [] → p.traffic r.files = []) :
    (dossier ++ [r]).Paired p where
  placed i r' place := by
    rcases Nat.lt_trichotomy i dossier.length with inside | here | outside
    · rw [List.getElem?_append_left inside] at place
      exact (paired.placed i r' place).concat r
    · subst here
      rw [List.getElem?_concat_length] at place
      obtain rfl := Option.some.inj place
      exact placed.concat r
    · rw [List.getElem?_eq_none (by simp; omega)] at place
      cases place
  fair r' member := by
    rcases List.mem_append.mp member with old | new
    · exact paired.fair r' old
    · rw [List.mem_singleton.mp new]
      exact fair
  stories tag := by
    rw [story_concat]
    split
    · next about =>
      subst about
      exact story
    · exact paired.stories tag
  spared r' member t claim found := by
    rcases List.mem_append.mp member with old | new
    · exact paired.spared_concat placed spares old claim found
    · obtain rfl := List.mem_singleton.mp new
      rw [story_concat, if_pos rfl, paired.story_fresh (placed.serial_of_claim claim)]
      have opening := found.opening
      generalize p.traffic r'.files = log at opening
      cases opening with
      | found => rfl

theorem Balanced.concat {key : UInt32} {owed owed' : Bool} (balanced : dossier.Balanced p key owed)
    {r : Record T V} (step : (∀ e, p.unexporting key (some e) ∉ p.traffic r.files) →
      (p.traffic r.files).count (p.exporting key none) + owed.toNat =
        (p.traffic r.files).count (p.unexporting key none) + owed'.toNat) :
    (dossier ++ [r]).Balanced p key owed' := by
  intro unfailed
  rw [files_concat] at unfailed ⊢
  have before := balanced fun e member => unfailed e (List.mem_append_left _ member)
  have now := step fun e member =>
    unfailed e (List.mem_append_right _ ((Ports.mem_traffic (.inr rfl)).mp member))
  rw [Ports.count_traffic (.inl rfl), Ports.count_traffic (.inr rfl)] at now
  rw [List.count_append, List.count_append]
  omega

theorem Balanced.other {key : UInt32} {owed : Bool} (balanced : dossier.Balanced p key owed)
    {r : Record T V} (fair : r.Fair p) (differs : key ≠ r.tag.key) :
    (dossier ++ [r]).Balanced p key owed := by
  refine balanced.concat fun _ => ?_
  have absent (e : FileEvent) (own : ∀ cause?, e ≠ p.exporting r.tag.key cause? ∧
      e ≠ p.unexporting r.tag.key cause?) : (p.traffic r.files).count e = 0 := by
    refine List.count_eq_zero.mpr fun member => ?_
    obtain ⟨cause?, same | same⟩ := fair.number member
    · exact (own cause?).1 same
    · exact (own cause?).2 same
  rw [absent (p.exporting key none), absent (p.unexporting key none)]
  · intro cause?
    exact ⟨fun same => Ports.exporting_ne_unexporting same.symm,
      fun same => differs (Ports.exporting_injective.2 same)⟩
  · intro cause?
    exact ⟨fun same => differs (Ports.exporting_injective.1 same),
      Ports.exporting_ne_unexporting⟩

/-- One more call about the channel itself. -/
theorem Tied.concat {key : UInt32} {c c' : Tagged C} (tied : dossier.Tied p key c) {r : Record T V}
    (about : r.tag = c.tag) (tag : c'.tag = c.tag) (own : p.own key c'.channel)
    (story : p.Story key (dossier.story p c.tag ++ p.traffic r.files) (p.marked c'.channel)) :
    (dossier ++ [r]).Tied p key c' where
  at_key := by
    rw [tag]
    exact tied.at_key
  own := own
  granted := by
    rw [tag]
    exact tied.granted.concat r
  story := by
    rw [story_concat, tag, if_pos about]
    exact story

theorem Tied.other {key : UInt32} {c : Tagged C} (tied : dossier.Tied p key c) {r : Record T V}
    (differs : key ≠ r.tag.key) : (dossier ++ [r]).Tied p key c where
  at_key := tied.at_key
  own := tied.own
  granted := tied.granted.concat r
  story := by
    have other : r.tag ≠ c.tag := by
      intro same
      rw [same, tied.at_key] at differs
      exact differs rfl
    rw [story_concat, if_neg other]
    exact tied.story

end Dossier

end Peripherals

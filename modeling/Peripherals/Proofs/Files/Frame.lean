import Peripherals.Proofs.Desk.Outside
import Peripherals.Proofs.FileTree.Confined
import Peripherals.Proofs.Pwm.Attributes
/-!
What the desks of a device may change in a tree of directories and files. Main statement: where claims,
work and closings keep to the places of their key, a command keeps to those of the key that it is about,
and the end of the desk to those of the keys that are leased.
-/

set_option autoImplicit false

namespace Peripherals

open FileTree (Place OpenFile Confined SameAt fileSystem spelled)
open Peripherals.Action (Leads Maintains)

/-! ### Attributes -/

section Attributes

variable {places : Place → Prop} {start : FileTree} {P : FileTree → Prop} {α : Type}

theorem FileTree.isPresent_keeps (path : Path) :
    Maintains P (fileSystem.isPresent path : Action Fault FileTree Bool) := by
  refine .of_keeps fun t kept => ?_
  have still : (fileSystem.isPresent path t : Outcome Fault FileTree Bool).state = t := by
    simp only [FileSystem.isPresent, Action.bind_apply, Action.attempt_apply]
    cases (fileSystem.locate path t).answer with
    | ok kind => exact t.locate_state path
    | error e => exact t.locate_state path
  rw [still]
  exact kept

namespace Attribute

/-- The open attribute stands where it did, and nothing has changed but at these places. -/
def Held (places : Place → Prop) (start : FileTree) (place : Place)
    (q : FileTree × Attribute OpenFile) : Prop :=
  Confined places start q.1 ∧ start.OpenAt place q.2.file

variable {place : Place}

theorem store_confined {path : Path} (own : places (spelled path)) (value : String) :
    Maintains (Confined places start) (store fileSystem path value) := by
  refine Leads.mapError (.of_keeps fun t kept => ?_)
  refine kept.trans ((kept.plain.confined_writeFile path _).mono ?_)
  rintro _ rfl
  exact own

theorem load_still (path : Path) : Maintains P (load fileSystem path) := by
  refine load_keeps path (fun t kept => ?_) (fun q kept => ?_) fun q kept => ?_
  · rw [t.openRead_state]
    exact kept
  · obtain ⟨position, state⟩ := FileTree.moves_rewind q
    rw [state]
    exact kept
  · obtain ⟨position, state⟩ := FileTree.moves_readAll q
    rw [state]
    exact kept

theorem openRead_leads (path : Path) : Leads (Confined places start) (openRead fileSystem path)
    (fun a t => Confined places start t ∧ t.OpenAt (spelled path) a.file) (Confined places start) := by
  refine Leads.bind (Q := fun f t => Confined places start t ∧ t.OpenAt (spelled path) f) ?_
    fun f => .pure fun _ opened => opened
  refine Leads.mapError fun t kept => ?_
  rw [t.openRead_state]
  split
  · next f opens => exact ⟨kept, kept.plain.openRead_openAt opens⟩
  · exact kept

theorem openUpdate_leads (path : Path) : Leads (Confined places start) (openUpdate fileSystem path)
    (fun a t => Confined places start t ∧ t.OpenAt (spelled path) a.file) (Confined places start) := by
  refine Leads.bind (Q := fun f t => Confined places start t ∧ t.OpenAt (spelled path) f) ?_
    fun f => .pure fun _ opened => opened
  refine Leads.mapError fun t kept => ?_
  rw [kept.plain.openUpdate_state]
  split
  · next f opens => exact ⟨kept, kept.plain.openUpdate_openAt opens⟩
  · exact kept

private theorem onFile_moves {R : FileTree → OpenFile → Prop}
    (moved : ∀ t f position, R t f → R t (f.at position))
    {work : Action IoError (FileTree × OpenFile) α} (moves : FileTree.Moves work) :
    Maintains (fun q => R q.1 q.2.file) (onFile work) := by
  refine .of_keeps fun q kept => ?_
  obtain ⟨position, state⟩ := moves (q.1, q.2.file)
  have after : (onFile work q).state = (q.1, ⟨q.2.path, q.2.file.at position⟩) :=
    congrArg (fun s => fileLens.set s q) state
  rw [after]
  exact moved q.1 q.2.file position kept

theorem read_moves {R : FileTree → OpenFile → Prop} (moved : ∀ t f position, R t f → R t (f.at position)) :
    Maintains (fun q => R q.1 q.2.file) (read fileSystem) :=
  (onFile_moves moved FileTree.moves_rewind).bind fun _ =>
    (onFile_moves moved FileTree.moves_readAll).bind fun _ =>
      Leads.bind (Q := fun _ q => R q.1 q.2.file) (.of_keeps fun _ kept => kept) fun _ =>
        .of_keeps fun _ kept => kept

private theorem held_at (t : FileTree) (f : OpenFile) (position : Nat)
    (held : Confined places start t ∧ start.OpenAt place f) :
    Confined places start t ∧ start.OpenAt place (f.at position) :=
  ⟨held.1, FileTree.openAt_at.mpr held.2⟩

theorem read_held : Maintains (Held places start place) (read fileSystem) :=
  read_moves held_at

theorem write_held (own : places place) (value : String) :
    Maintains (Held places start place) (write fileSystem value) := by
  refine (onFile_moves held_at FileTree.moves_rewind).bind fun _ => .of_keeps fun q held => ?_
  obtain ⟨kept, opened⟩ := held
  obtain ⟨written, position, file⟩ :=
    kept.plain.confined_overwrite (kept.anywhere.openAt opened) (Text.bytesOf value)
  refine ⟨kept.trans (written.mono ?_), ?_⟩
  · rintro _ rfl
    exact own
  · change start.OpenAt place (fileSystem.overwrite (Text.bytesOf value) (q.1, q.2.file)).state.2
    rw [file]
    exact FileTree.openAt_at.mpr opened

end Attribute

end Attributes

/-! ### Territories -/

/-- The places that belong to each key of a device, and what is known of an open channel for the key,
whatever changes in the tree. -/
structure Territory (C : Type) where
  owns : UInt32 → Place → Prop
  knows : UInt32 → FileTree → C → Prop
  carried : ∀ {key : UInt32} {t u : FileTree} {channel : C}, Confined (fun _ => True) t u →
    knows key t channel → knows key u channel

variable {S C A K α β : Type} {T : Territory C} {dev : Device FileTree S C}

namespace Territory

/-- From a tree on nothing has changed but at the places of a key, and its channel is still known. -/
def Kept (T : Territory C) (key : UInt32) (start : FileTree) (p : FileTree × C) : Prop :=
  Confined (T.owns key) start p.1 ∧ T.knows key start p.2

/-- Calls on channels that keep to the places of their keys. -/
def Guards (T : Territory C) (x : Action Fault (FileTree × C) α) : Prop :=
  ∀ key start, Maintains (T.Kept key start) x

/-- Work on leases that keeps to the places of their keys. -/
def Minds (T : Territory C) (x : Action Fault (FileTree × Lease S C) α) : Prop :=
  ∀ key start, Maintains (fun p => T.Kept key start (p.1, p.2.channel)) x

namespace Minds

variable {x : Action Fault (FileTree × Lease S C) α}

theorem of_still (still : ∀ p, ((x p).state.1, (x p).state.2.channel) = (p.1, p.2.channel)) : T.Minds x := by
  refine fun key start => .of_keeps fun p kept => ?_
  rw [still p]
  exact kept

theorem zoom {x : Action Fault (FileTree × C) α} (guards : T.Guards x) :
    T.Minds (Action.zoom (Lease.channelLens (S := S)) x) :=
  fun key start => .of_keeps fun p kept => (guards key start).keeps (s := (p.1, p.2.channel)) kept

theorem bind {f : α → Action Fault (FileTree × Lease S C) β} (minds : T.Minds x)
    (next : ∀ a, T.Minds (f a)) : T.Minds (x >>= f) :=
  fun key start => (minds key start).bind fun a => next a key start

theorem map (minds : T.Minds x) (f : α → β) : T.Minds (f <$> x) :=
  fun key start => (minds key start).map f

end Minds

/-- The device keeps to the territory. -/
structure Governs (T : Territory C) (dev : Device FileTree S C) : Prop where
  claim : ∀ s start, Leads (Confined (T.owns (dev.trade.key s)) start) (dev.claim s)
    (fun c t => Confined (T.owns (dev.trade.key s)) start t ∧ T.knows (dev.trade.key s) t c)
    (Confined (T.owns (dev.trade.key s)) start)
  rest : T.Minds dev.rest
  close : T.Minds dev.close

/-- The tree is plain, and if there is a lease on the key its channel is known. -/
def settled (T : Territory C) : KeyProperty FileTree S C := fun key t l =>
  t.Plain ∧ ∀ lease, l = some lease → T.knows key t lease.channel

private theorem settled_none {key : UInt32} {t : FileTree} (plain : t.Plain) :
    T.settled key t (none : Option (Lease S C)) :=
  ⟨plain, fun _ none => nomatch none⟩

private theorem settled_some {key : UInt32} {t : FileTree} {lease : Lease S C} (plain : t.Plain)
    (known : T.knows key t lease.channel) : T.settled key t (some lease) := by
  refine ⟨plain, fun lease' same => ?_⟩
  obtain rfl := Option.some.inj same
  exact known

private theorem settled_of_confined {places : Place → Prop} {t u : FileTree}
    (confined : Confined places t u)
    {key : UInt32} {l : Option (Lease S C)} (was : T.settled key t l) : T.settled key u l :=
  ⟨confined.plain, fun lease same => T.carried confined.anywhere (was.2 lease same)⟩

private theorem Kept.start {key : UInt32} {t : FileTree} {lease : Lease S C}
    (was : T.settled key t (some lease)) : T.Kept key t (t, lease.channel) :=
  ⟨.refl was.1, was.2 lease rfl⟩

private theorem Kept.settled {key : UInt32} {start t : FileTree} {lease : Lease S C}
    (kept : T.Kept key start (t, lease.channel)) : T.settled key t (some lease) :=
  settled_some kept.1.plain (T.carried kept.1.anywhere kept.2)

private theorem Minds.keeps {x : Action Fault (FileTree × Lease S C) α} (minds : T.Minds x) :
    Keeps T.settled (fun _ => True) x fun _ _ => True := by
  intro key p was _
  have kept := Action.Leads.keeps (minds key p.1) (Kept.start was)
  exact ⟨kept.settled, fun other l _ was => settled_of_confined kept.1 was, fun _ _ => trivial⟩

namespace Governs

variable (governs : T.Governs dev)

include governs

private theorem windUp : T.Minds dev.windUp :=
  fun key start => (governs.rest key start).bind fun _ => governs.close key start

private theorem claim_confined (s : S) {t : FileTree} (plain : t.Plain) :
    Confined (T.owns (dev.trade.key s)) t (dev.claim s t).state :=
  ((governs.claim s t).weaken (fun _ kept => kept) (fun _ _ claimed => claimed.1) fun _ kept => kept).keeps
    (.refl plain)

private theorem tends : dev.Tends T.settled fun _ => True where
  claim_others s _ _ was key l _ was' := settled_of_confined (governs.claim_confined s was.1) was'
  claim_error s _ _ _ was _ := settled_none (governs.claim_confined s was.1).plain
  claim_ok s t c _ was claimed := by
    obtain ⟨kept, known⟩ := (governs.claim s t).of_ok (.refl was.1) claimed
    exact settled_some kept.plain known
  windUp_others key p was := (governs.windUp.keeps key p was trivial).2.1
  windUp_error key p _ was _ := (governs.windUp.keeps key p was trivial).1
  windUp_ok key p was _ := settled_none (governs.windUp.keeps key p was trivial).1.1

end Governs

end Territory

/-! ### Commands -/

/-- The key that an errand is about, if it is about one at all. -/
def Errand.subject? (dev : Device FileTree S C) (d : Desk FileTree S C) :
    Errand FileTree S C A → Option UInt32
  | .request _ s => some (dev.trade.key s)
  | .release h | .use h _ | .look h _ => d.leases.keyOf? h

namespace Territory.Governs

variable {d d' : Desk FileTree S C} {granted : Handle → A} {done : A} {e : Errand FileTree S C A}
  {answer : Except Fault A}

private theorem course_confined (governs : T.Governs dev)
    (course : Course dev granted done d e answer d')
    (works : ∀ h work, e = .use h work → T.Minds work) (t : d.Tended T.settled) :
    Confined (fun place => ∃ key, e.subject? dev d = some key ∧ T.owns key place) d.device d'.device := by
  have plain : d.device.Plain := (t.holds 0).1
  have about {h : Handle} {key : UInt32} {lease : Lease S C}
      (live : d.leases.slots.get? h = some (key, lease)) : d.leases.keyOf? h = some key :=
    HandleTable.keyOf?_eq_some_iff.mpr ⟨lease, live⟩
  have work {h : Handle} {key : UInt32} {lease : Lease S C} {β : Type}
      {x : Action Fault (FileTree × Lease S C) β} (live : d.leases.slots.get? h = some (key, lease))
      (minds : T.Minds x) : Confined (T.owns key) d.device (x (d.device, lease)).state.1 :=
    (Leads.keeps (minds key d.device) (s := (d.device, lease)) (Kept.start (t.live live))).1
  cases course with
  | barred | taken | unknown | looked => exact .refl plain
  | declined | granted =>
    exact (governs.claim_confined _ plain).mono fun place own => ⟨_, rfl, own⟩
  | used live => exact (work live (works _ _ rfl)).mono fun place own => ⟨_, about live, own⟩
  | kept live | released live =>
    exact (work live governs.windUp).mono fun place own => ⟨_, about live, own⟩

/-! ### The end of a desk -/

private theorem dismissAll_confined (governs : T.Governs dev)
    (order : List (Handle × UInt32 × Lease S C))
    {t : FileTree} (plain : t.Plain) (known : ∀ e ∈ order, T.settled e.2.1 t (some e.2.2)) :
    Confined (fun place => ∃ e ∈ order, T.owns e.2.1 place) t (dev.dismissAll order t).state := by
  induction order generalizing t with
  | nil => exact .refl plain
  | cons e order ih =>
    obtain ⟨h, key, lease⟩ := e
    have start : T.Kept key t (t, lease.channel) := .start (known _ List.mem_cons_self)
    have first : Confined (T.owns key) t (dev.dismiss h key (t, lease)).state.1 := by
      rw [dev.dismiss_state]
      have rests := Leads.keeps (governs.rest key t) (s := (t, lease)) start
      exact (Leads.keeps (governs.close key t) rests).1
    have others (e : Handle × UInt32 × Lease S C) (member : e ∈ order) :=
      settled_of_confined first (known e (List.mem_cons_of_mem _ member))
    rw [dev.dismissAll_cons]
    refine (first.mono fun place own => ?_).trans ((ih first.plain others).mono fun place own => ?_)
    · exact ⟨_, List.mem_cons_self, own⟩
    · obtain ⟨e, member, own⟩ := own
      exact ⟨e, List.mem_cons_of_mem _ member, own⟩

private theorem parting_confined (governs : T.Governs dev) (t : d.Tended T.settled)
    {order : List (Handle × UInt32 × Lease S C)} (perm : order.Perm d.leases.entries) :
    Confined (fun place => ∃ key, d.leases.containsKey key = true ∧ T.owns key place) d.device
      (dev.dismissAll order d.device).state := by
  have slot {e : Handle × UInt32 × Lease S C} (member : e ∈ order) :=
    t.sound.slots_of_mem_entries (perm.mem_iff.mp member)
  have known (e : Handle × UInt32 × Lease S C) (member : e ∈ order) := t.live (slot member)
  refine (governs.dismissAll_confined order (t.holds 0).1 known).mono fun place own => ?_
  obtain ⟨e, member, own⟩ := own
  exact ⟨e.2.1, t.sound.containsKey_iff.mpr ⟨_, _, slot member⟩, own⟩

end Territory.Governs

/-! ### Runs -/

/-- A command at this desk changes at most the places that belong to the key it is about, and the end of
the desk, in whatever order its leases are dismissed, those that belong to the keys that are leased. -/
structure Desk.Framed (dev : Device FileTree S C) (perform : K → Action Fault (Desk FileTree S C) A)
    (subject? : Desk FileTree S C → K → Option UInt32) (owns : UInt32 → Place → Prop)
    (d : Desk FileTree S C) : Prop where
  command : ∀ k, Confined (fun place => ∃ key, subject? d k = some key ∧ owns key place) d.device
    (perform k d).state.device
  parting : ∀ order, order.Perm d.leases.entries →
    Confined (fun place => ∃ key, d.leases.containsKey key = true ∧ owns key place) d.device
      (dev.dismissAll order d.device).state
  teardown : Confined (fun place => ∃ key, d.leases.containsKey key = true ∧ owns key place) d.device
    (dev.teardown d).state.device

/-- A change of plain trees by someone else, anywhere, that moves no file. -/
structure Interference where
  change : FileTree → FileTree
  confined : ∀ t, t.Plain → Confined (fun _ => True) t (change t)

namespace Territory.Governs

variable {granted : Handle → A} {done : A} {errand : K → Errand FileTree S C A}
  {perform : K → Action Fault (Desk FileTree S C) A}

/-- After every run of commands, while others change the tree as well, all open channels are known. -/
theorem run (governs : T.Governs dev) (same : ∀ k, perform k = (errand k).run dev granted done)
    (works : ∀ k h work, errand k = .use h work → T.Minds work) {t : FileTree} (plain : t.Plain)
    (counter : Nat) (os : List (Occurrence K Interference)) :
    (Action.runAll (Occurrence.perform perform Interference.change) os (Desk.vacant t counter)).Tended
      T.settled := by
  refine Occurrence.tended_run (fun k d tended => ?_) (fun e key t l was => ?_) (fun _ => settled_none plain)
    counter os
  · have course := (errand k).course dev granted done d
    rw [← same] at course
    exact Desk.Tended.step course governs.tends (fun _ _ => trivial)
      (fun h work use => (works k h work use).keeps) tended
  · exact settled_of_confined (e.confined t was.1) was

theorem framed (governs : T.Governs dev) (same : ∀ k, perform k = (errand k).run dev granted done)
    (works : ∀ k h work, errand k = .use h work → T.Minds work)
    {subject? : Desk FileTree S C → K → Option UInt32}
    (about : ∀ d k, (errand k).subject? dev d = subject? d k) {d : Desk FileTree S C}
    (tended : d.Tended T.settled) : d.Framed dev perform subject? T.owns where
  command k := by
    have course := (errand k).course dev granted done d
    rw [← same] at course
    rw [← about]
    exact governs.course_confined course (works k) tended
  parting _ perm := governs.parting_confined tended perm
  teardown := governs.parting_confined tended (.refl _)

end Territory.Governs

end Peripherals

import Mathlib.Data.List.Basic
import Peripherals.FileTree.Access
import Peripherals.Proofs.Action
import Peripherals.Proofs.FileTree.Names
/-!
Files at the ends of paths, which may lead through links. Main statements: where a path leads depends
neither on what is written into files nor on whether the file is to be written, and above a file there
is a directory.
-/

set_option autoImplicit false

namespace Peripherals.FileTree

private theorem walk_congr {t u : FileTree} (same : ∀ place, u.node? place = t.node? place)
    (ending : Ending)
    (links : Nat) (dir : Place) (names : List String) :
    u.walk ending links dir names = t.walk ending links dir names := by
  fun_induction t.walk ending links dir names
  all_goals grind [walk.eq_def u]

private theorem lookup_setBytes (t : FileTree) (n : Nat) (bytes : List UInt8) (p : Path) :
    (t.setBytes n bytes).lookup p = t.lookup p := by
  have resolves : (t.setBytes n bytes).resolve .followed p = t.resolve .followed p := by
    simp only [resolve, walk_congr (t := t) (u := t.setBytes n bytes) fun _ => rfl]
  rw [lookup, resolves]
  rfl

def fileAt? (t : FileTree) (p : Path) : Option Nat :=
  match t.lookup p with
  | .ok (_, .file n) => some n
  | _ => none

/-! ### Directories on the way -/

/-- Directories all the way down to a place. -/
def Grounded (t : FileTree) (dir : Place) : Prop :=
  ∀ p, p <+: dir → t.node? p = some .directory

variable {t : FileTree} {dir place : Place}

private theorem node?_nil (t : FileTree) : t.node? [] = some .directory := rfl

private theorem node?_outside (t : FileTree) : t.node? outside = some .directory := rfl

theorem grounded_nil (t : FileTree) : t.Grounded [] := by
  intro p front
  rw [List.prefix_nil.mp front]
  exact t.node?_nil

private theorem grounded_outside (t : FileTree) : t.Grounded outside := by
  intro p front
  rcases List.prefix_cons_iff.mp front with rfl | ⟨rest, rfl, nothing⟩
  · exact t.node?_nil
  · rw [List.prefix_nil.mp nothing]
    exact t.node?_outside

private theorem Grounded.node? (grounded : t.Grounded dir) : t.node? dir = some .directory :=
  grounded dir List.prefix_rfl

private theorem Grounded.above (grounded : t.Grounded dir) : t.Grounded (above dir) := by
  unfold FileTree.above
  split
  · exact t.grounded_outside
  · exact fun p front => grounded p (front.trans dir.dropLast_prefix)

theorem Grounded.concat (grounded : t.Grounded dir) {name : String}
    (here : t.node? (dir ++ [name]) = some .directory) : t.Grounded (dir ++ [name]) := by
  intro p front
  rcases List.prefix_concat_iff.mp front with rfl | front
  · exact here
  · exact grounded p front

private theorem Grounded.startOf (grounded : t.Grounded dir) (text : String) :
    t.Grounded (startOf dir text) := by
  unfold FileTree.startOf
  split
  · exact t.grounded_outside
  · exact grounded

/-! ### Ways to a place -/

/-- A directory is searched for this name, behind which `rest` remains of the path. -/
structure Sought (ending : Ending) (name : String) (rest : List String) : Prop where
  filled : name ≠ ""
  onward : name ≠ "." ∧ name ≠ ".."
  short : name.utf8ByteSize ≤ nameLimit
  unslashed : ¬ (ending = .created ∧ rest = [""])

/-- The names lead from a directory to a place, following so many links at most. -/
inductive Leads (t : FileTree) (ending : Ending) : Nat → Place → List String → Place → Prop
  | done {links : Nat} {dir : Place} : Leads t ending links dir [] dir
  | stay {links : Nat} {dir place : Place} {name : String} {rest : List String}
    (still : name = "" ∨ name = ".") (on : Leads t ending links dir rest place) :
    Leads t ending links dir (name :: rest) place
  | up {links : Nat} {dir place : Place} {rest : List String}
    (on : Leads t ending links (above dir) rest place) : Leads t ending links dir (".." :: rest) place
  | down {links : Nat} {dir place : Place} {name : String} {rest : List String}
    (sought : Sought ending name rest) (here : t.node? (dir ++ [name]) = some .directory)
    (on : Leads t ending links (dir ++ [name]) rest place) : Leads t ending links dir (name :: rest) place
  | follow {links : Nat} {dir place : Place} {name target : String} {rest : List String}
    (sought : Sought ending name rest) (here : t.node? (dir ++ [name]) = some (.link target))
    (goes : ¬ (rest = [] ∧ ending = .kept)) (filled : target ≠ "")
    (on : Leads t ending links (startOf dir target) (namesOf target ++ rest) place) :
    Leads t ending (links + 1) dir (name :: rest) place
  | absent {links : Nat} {dir : Place} {name : String} (sought : Sought ending name [])
    (here : t.node? (dir ++ [name]) = none) (inside : dir ≠ outside) :
    Leads t ending links dir [name] (dir ++ [name])
  | last {links : Nat} {dir : Place} {name : String} {node : Node} (sought : Sought ending name [])
    (here : t.node? (dir ++ [name]) = some node) (leaf : node ≠ .directory)
    (kept : ∀ target, node = .link target → ending = .kept) :
    Leads t ending links dir [name] (dir ++ [name])

private theorem isStill_iff {name : String} :
    (name.isEmpty || name == ".") = true ↔ name = "" ∨ name = "." := by
  rw [Bool.or_eq_true, String.isEmpty_iff, beq_iff_eq]

private theorem sought_iff {ending : Ending} {name : String}
    {rest : List String} : Sought ending name rest ↔
    ¬ (name.isEmpty || name == ".") = true ∧ ¬ (name == "..") = true ∧
      ¬ (ending = .created ∧ rest = [""]) ∧ ¬ nameLimit < name.utf8ByteSize := by
  rw [isStill_iff, beq_iff_eq]
  constructor
  · rintro ⟨filled, ⟨stay, up⟩, short, unslashed⟩
    exact ⟨fun still => still.elim filled stay, up, unslashed, Nat.not_lt.mpr short⟩
  · rintro ⟨still, up, unslashed, short⟩
    exact ⟨fun empty => still (.inl empty), ⟨fun stay => still (.inr stay), up⟩, Nat.not_lt.mp short, unslashed⟩

/-- A walk gets to a place just if the names lead there. -/
private theorem leads_of_walk {ending : Ending} {links : Nat} {names : List String}
    (walks : t.walk ending links dir names = .ok place) : t.Leads ending links dir names place := by
  fun_induction t.walk ending links dir names
  case case1 =>
    obtain rfl := Except.ok.inj walks
    exact .done
  case case2 still ih => exact .stay (isStill_iff.mp still) (ih walks)
  case case3 up ih =>
    obtain rfl := beq_iff_eq.mp up
    exact .up (ih walks)
  case case6 still up unslashed short _ here inside =>
    obtain rfl := Except.ok.inj walks
    rw [Bool.and_eq_true, List.isEmpty_iff, bne_iff_ne] at inside
    obtain ⟨rfl, inside⟩ := inside
    exact .absent (sought_iff.mpr ⟨still, up, unslashed, short⟩) here inside
  case case8 still up unslashed short _ here ih =>
    exact .down (sought_iff.mpr ⟨still, up, unslashed, short⟩) here (ih walks)
  case case9 still up unslashed short _ target here kept =>
    obtain rfl := Except.ok.inj walks
    rw [Bool.and_eq_true, List.isEmpty_iff, beq_iff_eq] at kept
    obtain ⟨rfl, kept⟩ := kept
    exact .last (sought_iff.mpr ⟨still, up, unslashed, short⟩) here (fun same => nomatch same) fun _ _ => kept
  case case12 still up unslashed short _ target here goes links filled ih =>
    rw [Bool.and_eq_true, List.isEmpty_iff, beq_iff_eq] at goes
    rw [String.isEmpty_iff] at filled
    exact .follow (sought_iff.mpr ⟨still, up, unslashed, short⟩) here goes filled (ih walks)
  case case13 still up unslashed short _ node leaf other here last =>
    obtain rfl := Except.ok.inj walks
    obtain rfl := List.isEmpty_iff.mp last
    exact .last (sought_iff.mpr ⟨still, up, unslashed, short⟩) here leaf fun target same => (other target same).elim
  all_goals cases walks

private theorem walk_of_leads {ending : Ending} {links : Nat} {names : List String}
    (leads : t.Leads ending links dir names place) : t.walk ending links dir names = .ok place := by
  induction leads with
  | done => rw [walk]
  | stay still on ih => rw [walk, if_pos (isStill_iff.mpr still), ih]
  | up on ih => rw [walk, if_neg (by decide), if_pos (beq_self_eq_true ".."), ih]
  | down sought here on ih =>
    obtain ⟨still, up, unslashed, short⟩ := sought_iff.mp sought
    rw [walk, if_neg still, if_neg up, if_neg unslashed, if_neg short]
    simp only [here, ih]
  | follow sought here goes filled on ih =>
    obtain ⟨still, up, unslashed, short⟩ := sought_iff.mp sought
    rw [walk, if_neg still, if_neg up, if_neg unslashed, if_neg short]
    rw [← List.isEmpty_iff, ← beq_iff_eq (b := Ending.kept), ← Bool.and_eq_true] at goes
    have filled' : ¬ String.isEmpty _ = true := fun empty => filled (String.isEmpty_iff.mp empty)
    simp only [here, if_neg goes, if_neg filled', ih]
  | absent sought here inside =>
    obtain ⟨still, up, unslashed, short⟩ := sought_iff.mp sought
    rw [walk, if_neg still, if_neg up, if_neg unslashed, if_neg short]
    simp [here, inside]
  | @last links dir name node sought here leaf kept =>
    obtain ⟨still, up, unslashed, short⟩ := sought_iff.mp sought
    rw [walk, if_neg still, if_neg up, if_neg unslashed, if_neg short]
    cases node with
    | directory => exact absurd rfl leaf
    | link target => simp [here, kept target rfl]
    | file n | hook n entries => simp [here]

/-- A path that ends here or in a slash asks for a directory. -/
def EndsOpen (names : List String) : Prop :=
  ∀ name ∈ names.getLast?, name = ""

private theorem endsOpen_tail {name : String} {rest : List String} (ends : EndsOpen (name :: rest)) :
    EndsOpen rest := by
  intro last member
  cases rest with
  | nil => cases member
  | cons next rest => exact ends last (by rwa [List.getLast?_cons_cons])

private theorem endsOpen_append {names rest : List String} (ends : EndsOpen rest) (more : rest ≠ []) :
    EndsOpen (names ++ rest) := by
  intro last member
  rw [List.getLast?_append_of_ne_nil _ more] at member
  exact ends last member

private theorem Sought.rest_ne_nil {ending : Ending} {name : String} {rest : List String}
    (sought : Sought ending name rest) (ends : EndsOpen (name :: rest)) : rest ≠ [] := by
  rintro rfl
  exact sought.filled (ends name rfl)

private theorem Sought.followed {name : String} {rest : List String}
    (sought : Sought .followed name rest)
    (rest' : List String) : Sought .followed name rest' :=
  ⟨sought.filled, sought.onward, sought.short, fun slash => nomatch slash.1⟩

private theorem Leads.node?_of_endsOpen {ending : Ending} {links : Nat} {names : List String}
    (leads : t.Leads ending links dir names place) (grounded : t.Grounded dir)
    (ends : EndsOpen names) : t.node? place = some .directory := by
  induction leads with
  | done => exact grounded.node?
  | stay still on ih => exact ih grounded (endsOpen_tail ends)
  | up on ih => exact ih grounded.above (endsOpen_tail ends)
  | down sought here on ih => exact ih (grounded.concat here) (endsOpen_tail ends)
  | follow sought here goes filled on ih =>
    exact ih (grounded.startOf _) (endsOpen_append (endsOpen_tail ends) (sought.rest_ne_nil ends))
  | absent sought | last sought => exact absurd rfl (sought.rest_ne_nil ends)

private theorem Sought.created {links : Nat} {rest : List String} {name : String}
    (sought : Sought .followed name rest) (names : List String)
    (on : t.Leads .followed links dir (names ++ rest) place) (grounded : t.Grounded dir)
    (leaf : t.node? place ≠ some .directory) : Sought .created name rest := by
  refine ⟨sought.filled, sought.onward, sought.short, ?_⟩
  rintro ⟨-, rfl⟩
  refine leaf (on.node?_of_endsOpen grounded (endsOpen_append ?_ (List.cons_ne_nil _ _)))
  exact fun last member => (Option.some.inj member).symm

private theorem Leads.created {links : Nat} {names : List String}
    (leads : t.Leads .followed links dir names place) (grounded : t.Grounded dir)
    (leaf : t.node? place ≠ some .directory) : t.Leads .created links dir names place := by
  have here {name : String} (sought : Sought .followed name []) : Sought .created name [] :=
    ⟨sought.filled, sought.onward, sought.short, fun slash => nomatch slash.2⟩
  induction leads with
  | done => exact .done
  | stay still on ih => exact .stay still (ih grounded leaf)
  | up on ih => exact .up (ih grounded.above leaf)
  | down sought enters on ih =>
    have grounded' := grounded.concat enters
    exact .down (sought.created [] on grounded' leaf) enters (ih grounded' leaf)
  | @follow links dir place name target rest sought link goes filled on ih =>
    have grounded' := grounded.startOf target
    exact .follow (sought.created _ on grounded' leaf) link (fun kept => nomatch kept.2) filled (ih grounded' leaf)
  | absent sought none inside => exact .absent (here sought) none inside
  | last sought some other kept => exact .last (here sought) some other fun target same => nomatch kept target same

/-- A way that goes on has passed through a directory. -/
private theorem Leads.split {links : Nat} {names rest : List String}
    (leads : t.Leads .followed links dir (names ++ rest) place) (grounded : t.Grounded dir)
    (more : rest ≠ []) :
    ∃ mid, t.Leads .followed links dir names mid ∧ t.node? mid = some .directory := by
  generalize all : names ++ rest = path at leads
  induction leads generalizing names with
  | done => exact absurd (List.append_eq_nil_iff.mp all).2 more
  | absent sought none inside | last sought some other kept =>
    rcases List.append_eq_singleton_iff.mp all with ⟨rfl, -⟩ | ⟨-, rfl⟩
    · exact ⟨_, .done, grounded.node?⟩
    · exact absurd rfl more
  | stay still on ih =>
    rcases List.append_eq_cons_iff.mp all with ⟨rfl, -⟩ | ⟨names, rfl, rfl⟩
    · exact ⟨_, .done, grounded.node?⟩
    · obtain ⟨mid, leads, dir⟩ := ih grounded rfl
      exact ⟨mid, .stay still leads, dir⟩
  | up on ih =>
    rcases List.append_eq_cons_iff.mp all with ⟨rfl, -⟩ | ⟨names, rfl, rfl⟩
    · exact ⟨_, .done, grounded.node?⟩
    · obtain ⟨mid, leads, dir⟩ := ih grounded.above rfl
      exact ⟨mid, .up leads, dir⟩
  | down sought enters on ih =>
    rcases List.append_eq_cons_iff.mp all with ⟨rfl, -⟩ | ⟨names, rfl, rfl⟩
    · exact ⟨_, .done, grounded.node?⟩
    · obtain ⟨mid, leads, dir⟩ := ih (grounded.concat enters) rfl
      exact ⟨mid, .down (sought.followed _) enters leads, dir⟩
  | @follow links dir place name target _ sought link goes filled on ih =>
    rcases List.append_eq_cons_iff.mp all with ⟨rfl, -⟩ | ⟨names, rfl, rfl⟩
    · exact ⟨_, .done, grounded.node?⟩
    · obtain ⟨mid, leads, dir⟩ := ih (grounded.startOf target) (List.append_assoc _ _ _)
      exact ⟨mid, .follow (sought.followed _) link (fun kept => nomatch kept.2) filled leads, dir⟩

/-! ### Files that are there -/

/-- A path that is followed at all. -/
structure Proper (p : Path) : Prop where
  spelled : p.text.toList.any (fun c => c.toNat == 0) = false
  filled : p.text ≠ ""
  short : p.text.utf8ByteSize ≤ pathLimit

theorem resolve_eq_ok_iff {ending : Ending} {p : Path} : t.resolve ending p = .ok place ↔
    Proper p ∧ t.Leads ending linkLimit (startOf [] p.text) (namesOf p.text) place := by
  unfold resolve
  constructor
  · intro resolves
    split at resolves
    · cases resolves
    split at resolves
    · cases resolves
    split at resolves
    · cases resolves
    next spelled filled short =>
      rw [String.isEmpty_iff] at filled
      exact ⟨⟨Bool.eq_false_iff.mpr spelled, filled, Nat.le_of_not_lt short⟩, leads_of_walk resolves⟩
  · rintro ⟨⟨spelled, filled, short⟩, leads⟩
    rw [if_neg (Bool.eq_false_iff.mp spelled), if_neg (mt String.isEmpty_iff.mp filled),
      if_neg (Nat.not_lt.mpr short)]
    exact walk_of_leads leads

theorem lookup_eq_ok_iff {p : Path} {node : Node} : t.lookup p = .ok (place, node) ↔
    t.resolve .followed p = .ok place ∧ t.node? place = some node := by
  unfold lookup
  cases t.resolve .followed p with
  | error e => exact ⟨(fun found => nomatch found), fun ⟨resolves, _⟩ => nomatch resolves⟩
  | ok reached =>
    simp only [bind, Except.bind, Except.ok.injEq]
    cases here : t.node? reached with
    | none =>
      refine ⟨(fun found => nomatch found), ?_⟩
      rintro ⟨rfl, stands⟩
      rw [here] at stands
      cases stands
    | some found =>
      constructor
      · intro same
        cases same
        exact ⟨rfl, here⟩
      · rintro ⟨rfl, stands⟩
        obtain rfl := Option.some.inj (here.symm.trans stands)
        rfl

private theorem lookup_of_fileAt? {p : Path} {n : Nat} (stands : t.fileAt? p = some n) :
    ∃ place, t.lookup p = .ok (place, .file n) := by
  unfold fileAt? at stands
  split at stands
  · next place there =>
    obtain rfl := Option.some.inj stands
    exact ⟨_, there⟩
  · cases stands

private theorem fileAt?_eq_some_iff {p : Path} {n : Nat} : t.fileAt? p = some n ↔
    ∃ place, t.resolve .followed p = .ok place ∧ t.node? place = some (.file n) := by
  constructor
  · intro stands
    obtain ⟨place, found⟩ := lookup_of_fileAt? stands
    exact ⟨place, lookup_eq_ok_iff.mp found⟩
  · rintro ⟨place, there⟩
    rw [fileAt?, lookup_eq_ok_iff.mpr there]

/-- A name that something can have. -/
def Ordinary (name : String) : Prop :=
  name ≠ "" ∧ name ≠ "." ∧ name ≠ ".." ∧ name.utf8ByteSize ≤ nameLimit

instance : DecidablePred Ordinary := fun name =>
  inferInstanceAs (Decidable (name ≠ "" ∧ name ≠ "." ∧ name ≠ ".." ∧ name.utf8ByteSize ≤ nameLimit))

private theorem Ordinary.sought {name : String} (ordinary : Ordinary name) (rest : List String) :
    Sought .followed name rest where
  filled := ordinary.1
  onward := ⟨ordinary.2.1, ordinary.2.2.1⟩
  short := ordinary.2.2.2
  unslashed slash := nomatch slash.1

private theorem Leads.straight {links n : Nat} {name : String} (names : List String)
    (ordinary : ∀ x ∈ names ++ [name], Ordinary x) (grounded : t.Grounded (dir ++ names))
    (here : t.node? (dir ++ names ++ [name]) = some (.file n)) :
    t.Leads .followed links dir (names ++ [name]) (dir ++ names ++ [name]) := by
  induction names generalizing dir with
  | nil =>
    rw [List.append_nil] at here ⊢
    have sought := (ordinary name List.mem_cons_self).sought []
    exact .last sought here (fun contra => nomatch contra) fun _ contra => nomatch contra
  | cons next names ih =>
    have down : dir ++ next :: names = dir ++ [next] ++ names := (List.append_assoc dir [next] names).symm
    rw [down] at grounded here ⊢
    have enters : t.node? (dir ++ [next]) = some .directory := grounded _ (List.prefix_append _ _)
    have sought := (ordinary next List.mem_cons_self).sought (names ++ [name])
    exact .down sought enters (ih (fun x member => ordinary x (List.mem_cons_of_mem _ member)) grounded here)

theorem fileAt?_of_straight {p : Path} {n : Nat} {name : String} (proper : Proper p)
    (start : startOf [] p.text = []) (names : namesOf p.text = dir ++ [name])
    (ordinary : ∀ x ∈ dir ++ [name], Ordinary x) (grounded : t.Grounded dir)
    (here : t.node? (dir ++ [name]) = some (.file n)) : t.fileAt? p = some n := by
  have leads : t.Leads .followed linkLimit (startOf [] p.text) (namesOf p.text) (dir ++ [name]) := by
    rw [start, names]
    exact Leads.straight dir ordinary grounded here
  exact fileAt?_eq_some_iff.mpr ⟨_, resolve_eq_ok_iff.mpr ⟨proper, leads⟩, here⟩

theorem openRead_of_fileAt? {t : FileTree} {p : Path} {n : Nat} (stands : t.fileAt? p = some n) :
    fileSystem.openRead p t = ⟨.ok (.file n 0), [], t⟩ := by
  obtain ⟨place, there⟩ := lookup_of_fileAt? stands
  change openRead p t = _
  rw [openRead, there]

theorem openUpdate_of_fileAt? {t : FileTree} {p : Path} {n : Nat} (stands : t.fileAt? p = some n) :
    fileSystem.openUpdate p t = ⟨.ok (.file n 0), [], t⟩ := by
  obtain ⟨place, there⟩ := lookup_of_fileAt? stands
  change openUpdate p t = _
  rw [openUpdate, there]
  rfl

theorem writeFile_of_fileAt? {p : Path} {n : Nat} (stands : t.fileAt? p = some n) (bytes : List UInt8) :
    fileSystem.writeFile p bytes t = ⟨.ok (), [], t.setBytes n bytes⟩ := by
  obtain ⟨place, resolves, here⟩ := fileAt?_eq_some_iff.mp stands
  obtain ⟨proper, leads⟩ := resolve_eq_ok_iff.mp resolves
  have leaf : t.node? place ≠ some .directory := by
    rw [here]
    exact fun same => nomatch same
  have created : t.resolve .created p = .ok place :=
    resolve_eq_ok_iff.mpr ⟨proper, leads.created (t.grounded_nil.startOf _) leaf⟩
  change writeFile p bytes t = _
  simp only [writeFile, created, here]
  rfl

theorem fileAt?_setBytes (t : FileTree) (n : Nat) (bytes : List UInt8) (p : Path) :
    (t.setBytes n bytes).fileAt? p = t.fileAt? p := by
  rw [fileAt?, fileAt?, lookup_setBytes]

theorem bytes_setBytes (t : FileTree) (n m : Nat) (bytes : List UInt8) :
    (t.setBytes n bytes).bytes m = if m = n then bytes else t.bytes m := by
  rw [FileTree.bytes, setBytes, Assoc.getD, Assoc.get?_put]
  split
  · rfl
  · rfl

private theorem Proper.of_join {dir : Path} {name : String} (filled : dir.text ≠ "")
    (proper : Proper (dir.join name)) : Proper dir := by
  obtain ⟨sep, joined⟩ : ∃ sep : String, (dir.join name).text = dir.text ++ (sep ++ name) := by
    unfold Path.join
    split
    · exact ⟨"", by simp⟩
    · exact ⟨"/", by rw [String.append_assoc]⟩
  obtain ⟨spelled, -, short⟩ := proper
  rw [joined, String.toList_append, List.any_append, Bool.or_eq_false_iff] at spelled
  rw [joined, String.utf8ByteSize_append] at short
  exact ⟨spelled.1, filled, (Nat.le_add_right _ _).trans short⟩

/-- A file stands in a directory that is there. -/
theorem isPresent_of_fileAt? {dir : Path} {name : String} {n : Nat} (solid : dir.Solid)
    (named : name ≠ "") (clean : '/' ∉ name.toList) (stands : t.fileAt? (dir.join name) = some n)
    {ε : Type} : (fileSystem.isPresent dir : Action ε FileTree Bool) t = ⟨.ok true, [], t⟩ := by
  obtain ⟨place, resolves, -⟩ := fileAt?_eq_some_iff.mp stands
  obtain ⟨proper, leads⟩ := resolve_eq_ok_iff.mp resolves
  have names : namesOf (dir.join name).text = namesOf dir.text ++ [name] := by
    rw [namesOf_join dir named clean, namesOf_of_last solid.last]
  have start : startOf [] (dir.join name).text = startOf [] dir.text := by
    have chars : dir.text.toList ≠ [] := fun none => solid.filled (String.toList_eq_nil_iff.mp none)
    rw [startOf, startOf, solid.join_text, List.head?_append_of_ne_nil _ chars]
  rw [names, start] at leads
  obtain ⟨mid, leads, here⟩ := leads.split (t.grounded_nil.startOf _) (List.cons_ne_nil _ _)
  have resolved : t.resolve .followed dir = .ok mid :=
    resolve_eq_ok_iff.mpr ⟨proper.of_join solid.filled, leads⟩
  have located : fileSystem.locate dir t = ⟨.ok .directory, [], t⟩ := by
    have found : t.lookup dir = .ok (mid, .directory) := lookup_eq_ok_iff.mpr ⟨resolved, here⟩
    change locate dir t = _
    rw [locate, found]
  simp only [FileSystem.isPresent, Action.bind_apply, Action.attempt_apply, located]
  rfl

end Peripherals.FileTree

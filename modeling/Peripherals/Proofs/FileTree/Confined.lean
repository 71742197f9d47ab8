import Mathlib
import Peripherals.Proofs.FileTree.Basic
import Peripherals.Proofs.HandleTable
/-!
What changes in a tree of directories and files. A path spells its place there, because no link leads
away from it. Main statements: a write changes its place only, a file that is open stays where it is, and
every tree made of directories and files is such a tree.
-/

set_option autoImplicit false

namespace Peripherals.FileTree

variable {t u v : FileTree} {dir place : Place} {names : List String}

/-! ### Places by their spelling -/

/-- The place that a name leads to where there are no links. -/
def onward (dir : Place) (name : String) : Place :=
  if name = "" ∨ name = "." then dir
  else if name = ".." then above dir
  else dir ++ [name]

/-- The place that a path names where there are no links. -/
def spelled (p : Path) : Place :=
  (namesOf p.text).foldl onward (startOf [] p.text)

private theorem onward_of_sought {ending : Ending} {name : String} {rest : List String}
    (sought : Sought ending name rest) (dir : Place) : onward dir name = dir ++ [name] := by
  have still : ¬ (name = "" ∨ name = ".") := fun still => still.elim sought.filled sought.onward.1
  rw [onward, if_neg still, if_neg sought.onward.2]

/-- A name that begins with another character than a dot. -/
def Dotless (name : String) : Prop :=
  name.toList.head?.any (fun c => c != '.') = true

instance : DecidablePred Dotless := fun name =>
  inferInstanceAs (Decidable (name.toList.head?.any (fun c => c != '.') = true))

theorem dotless_of_head {name : String} {c : Char} (head : name.toList.head? = some c) (dot : c ≠ '.') :
    Dotless name := by
  rw [Dotless, head]
  exact bne_iff_ne.mpr dot

private theorem Dotless.filled {name : String} (dotless : Dotless name) : name ≠ "" := by
  rintro rfl
  cases dotless

private theorem Dotless.onward_eq {name : String} (dotless : Dotless name) (dir : Place) :
    onward dir name = dir ++ [name] := by
  have still : ¬ (name = "" ∨ name = ".") := by
    rintro (rfl | rfl)
    · cases dotless
    · cases dotless
  have down : name ≠ ".." := by
    rintro rfl
    cases dotless
  rw [onward, if_neg still, if_neg down]

private theorem foldl_onward {names : List String} (dotless : ∀ name ∈ names, Dotless name)
    (dir : Place) :
    names.foldl onward dir = dir ++ names := by
  induction names generalizing dir with
  | nil => exact (List.append_nil dir).symm
  | cons name names ih =>
    have rest := ih fun x member => dotless x (List.mem_cons_of_mem name member)
    rw [List.foldl_cons, (dotless name List.mem_cons_self).onward_eq, rest, List.append_assoc]
    rfl

theorem spelled_eq (p : Path) : spelled p = (parts p.text.toList).foldl onward (startOf [] p.text) := by
  rw [spelled, namesOf_eq]
  split
  · rw [List.foldl_append]
    rfl
  · rw [List.append_nil]

private theorem spelled_join (dir : Path) {name : String} (relative : name.toList.head? ≠ some '/') :
    spelled (dir.join name) = (parts name.toList).foldl onward (spelled dir) := by
  have start : startOf [] (dir.join name).text = startOf [] dir.text := by
    by_cases empty : dir.text = ""
    · have alone : (dir.join name).text = name := by simp [Path.join, empty]
      rw [alone, empty, startOf, startOf, if_neg (by simpa using relative)]
      rfl
    · obtain ⟨sep, text⟩ := dir.join_text name
      have chars : dir.text.toList ≠ [] := fun none => empty (String.toList_eq_nil_iff.mp none)
      rw [startOf, startOf, text, List.append_assoc, List.head?_append_of_ne_nil _ chars]
  rw [spelled_eq, spelled_eq, parts_join, List.foldl_append, start]

theorem spelled_join_names (dir : Path) {name : String} {names : List String}
    (relative : name.toList.head? ≠ some '/') (parted : parts name.toList = names)
    (dotless : ∀ x ∈ names, Dotless x) : spelled (dir.join name) = spelled dir ++ names := by
  rw [spelled_join dir relative, parted, foldl_onward dotless]

theorem spelled_join_name (dir : Path) {name : String} (dotless : Dotless name)
    (clean : '/' ∉ name.toList) : spelled (dir.join name) = spelled dir ++ [name] := by
  refine spelled_join_names dir (fun slash => clean (List.mem_of_head? slash))
    (parts_of_clean dotless.filled clean) ?_
  intro x member
  rwa [List.mem_singleton.mp member]

/-! ### Directories and files -/

/-- Every node is a directory or a file, and every file has a place and a number of its own. -/
structure Plain (t : FileTree) : Prop where
  simple : ∀ p node, t.node? p = some node → node = .directory ∨ ∃ n, node = .file n
  apart : ∀ p q n, t.node? p = some (.file n) → t.node? q = some (.file n) → p = q
  drawn : ∀ p n, t.node? p = some (.file n) → n < t.nextNumber

private theorem Plain.no_link (plain : t.Plain) {target : String} : t.node? place ≠ some
    (.link target) := by
  intro here
  rcases plain.simple _ _ here with contra | ⟨n, contra⟩
  · cases contra
  · cases contra

private theorem Plain.no_hook (plain : t.Plain) {n : Nat} {entries : List Entry} :
    t.node? place ≠ some (.hook n entries) := by
  intro here
  rcases plain.simple _ _ here with contra | ⟨n, contra⟩
  · cases contra
  · cases contra

private theorem Plain.place_eq (plain : t.Plain) {ending : Ending} {links : Nat}
    (leads : t.Leads ending links dir names place) : place = names.foldl onward dir := by
  induction leads with
  | done => rfl
  | stay still on ih => rw [List.foldl_cons, onward, if_pos still, ih]
  | up on ih => rw [List.foldl_cons, onward, if_neg (by decide), if_pos rfl, ih]
  | down sought here on ih => rw [List.foldl_cons, onward_of_sought sought, ih]
  | follow sought here goes filled on ih => exact absurd here plain.no_link
  | absent sought here inside => rw [List.foldl_cons, onward_of_sought sought, List.foldl_nil]
  | last sought here leaf kept => rw [List.foldl_cons, onward_of_sought sought, List.foldl_nil]

private theorem Plain.resolve_eq (plain : t.Plain) {ending : Ending} {p : Path}
    (resolves : t.resolve ending p = .ok place) : place = spelled p :=
  plain.place_eq (resolve_eq_ok_iff.mp resolves).2

/-! ### Changes of a tree -/

/-- Two trees have the same at a place. -/
def SameAt (t u : FileTree) (p : Place) : Prop :=
  u.node? p = t.node? p ∧ ∀ n, t.node? p = some (.file n) → u.bytes n = t.bytes n

/-- From a tree to a later one nothing changes but at these places, and no file moves. -/
structure Confined (places : Place → Prop) (t u : FileTree) : Prop where
  plain : u.Plain
  same : ∀ p, ¬ places p → SameAt t u p
  stays : ∀ p n, n < t.nextNumber → u.node? p = some (.file n) → t.node? p = some (.file n)
  grows : t.nextNumber ≤ u.nextNumber

namespace Confined

variable {places places' : Place → Prop}

theorem refl (plain : t.Plain) : Confined places t t :=
  ⟨plain, fun _ _ => ⟨rfl, fun _ _ => rfl⟩, fun _ _ _ here => here, Nat.le_refl _⟩

theorem trans (first : Confined places t u) (second : Confined places u v) : Confined places t v where
  plain := second.plain
  same p elsewhere := by
    obtain ⟨node, bytes⟩ := first.same p elsewhere
    obtain ⟨node', bytes'⟩ := second.same p elsewhere
    refine ⟨node'.trans node, fun n here => ?_⟩
    exact (bytes' n (node.trans here)).trans (bytes n here)
  stays p n old here := first.stays p n old (second.stays p n (old.trans_le first.grows) here)
  grows := first.grows.trans second.grows

theorem mono (confined : Confined places t u) (within : ∀ p, places p → places' p) :
    Confined places' t u :=
  ⟨confined.plain, fun p elsewhere => confined.same p (mt (within p) elsewhere), confined.stays,
    confined.grows⟩

theorem anywhere (confined : Confined places t u) : Confined (fun _ => True) t u :=
  confined.mono fun _ _ => trivial

end Confined

private theorem node?_put (t : FileTree) (node : Node)
    (inside : ¬ (place.isEmpty || place == outside) = true)
    {contents : Assoc Nat (List UInt8)} {next : Nat} (p : Place) :
    FileTree.node? ⟨t.nodes.put place node, contents, next⟩ p =
      if p = place then some node else t.node? p := by
  by_cases here : p = place
  · subst here
    rw [if_pos rfl, node?, if_neg inside]
    exact t.nodes.get?_put_self p node
  · rw [if_neg here, node?, node?]
    split
    · rfl
    · exact t.nodes.get?_put_of_ne node here

private theorem inside_of_absent (absent : t.node? place = none) :
    ¬ (place.isEmpty || place == outside) = true := by
  intro top
  rw [node?, if_pos top] at absent
  cases absent

private theorem Plain.confined_setBytes (plain : t.Plain) {n : Nat}
    (only : ∀ p, t.node? p = some (.file n) → p = place) (bytes : List UInt8) :
    Confined (· = place) t (t.setBytes n bytes) where
  plain := ⟨plain.simple, plain.apart, plain.drawn⟩
  same p other := by
    refine ⟨rfl, fun m stands => ?_⟩
    have differs : m ≠ n := by
      rintro rfl
      exact other (only p stands)
    rw [bytes_setBytes, if_neg differs]
  stays _ _ _ stands := stands
  grows := Nat.le_refl _

private theorem Plain.confined_newFile (plain : t.Plain) (absent : t.node? place = none)
    (bytes : List UInt8) : Confined (· = place) t (t.newFile place bytes) := by
  have node (p : Place) : (t.newFile place bytes).node? p =
      if p = place then some (.file t.nextNumber) else t.node? p :=
    node?_put t _ (inside_of_absent absent) p
  have old {p : Place} {n : Nat} (stands : (t.newFile place bytes).node? p = some (.file n)) :
      (p = place ∧ n = t.nextNumber) ∨ t.node? p = some (.file n) := by
    rw [node] at stands
    split at stands
    · next same => exact .inl ⟨same, (Node.file.inj (Option.some.inj stands)).symm⟩
    · exact .inr stands
  have fresh {p : Place} : t.node? p ≠ some (.file t.nextNumber) :=
    fun stands => Nat.lt_irrefl _ (plain.drawn p _ stands)
  refine ⟨⟨fun p found stands => ?_, fun p q n first second => ?_, fun p n stands => ?_⟩,
    fun p other => ⟨?_, fun n stands => ?_⟩, fun p n before stands => ?_, Nat.le_succ _⟩
  · rw [node] at stands
    split at stands
    · exact .inr ⟨_, (Option.some.inj stands).symm⟩
    · exact plain.simple p found stands
  · rcases old first with ⟨rfl, rfl⟩ | stood
    · rcases old second with ⟨rfl, -⟩ | stood'
      · rfl
      · exact absurd stood' fresh
    · rcases old second with ⟨rfl, rfl⟩ | stood'
      · exact absurd stood fresh
      · exact plain.apart p q n stood stood'
  · rcases old stands with ⟨-, rfl⟩ | stands
    · exact Nat.lt_succ_self _
    · exact Nat.lt_succ_of_lt (plain.drawn p n stands)
  · rw [node, if_neg other]
  · have differs : n ≠ t.nextNumber := (plain.drawn p n stands).ne
    exact congrArg (·.getD []) (t.contents.get?_put_of_ne bytes differs)
  · rcases old stands with ⟨-, rfl⟩ | stands
    · exact absurd before (Nat.lt_irrefl _)
    · exact stands

/-! ### Work on the tree -/

private theorem Plain.touch_eq (plain : t.Plain) {node : Node} (here : t.node? place = some node)
    {n : Nat}
    (touched : t.touch place node = .ok (n, u)) : node = .file n ∧ u = t := by
  rcases plain.simple _ _ here with rfl | ⟨m, rfl⟩
  · cases touched
  · cases touched
    exact ⟨rfl, rfl⟩

theorem Plain.confined_writeFile (plain : t.Plain) (p : Path) (bytes : List UInt8) :
    Confined (· = spelled p) t (fileSystem.writeFile p bytes t).state := by
  change Confined _ t (writeFile p bytes t).state
  unfold writeFile
  split
  · exact .refl plain
  · next place resolves =>
    obtain rfl := plain.resolve_eq resolves
    split
    · next absent => exact plain.confined_newFile absent bytes
    · next node here =>
      split
      · exact .refl plain
      · next n u touched =>
        obtain ⟨rfl, rfl⟩ := plain.touch_eq here touched
        exact plain.confined_setBytes (fun p stands => plain.apart p _ n stands here) bytes

theorem locate_state (t : FileTree) (p : Path) : (fileSystem.locate p t).state = t := by
  change (locate p t).state = t
  unfold locate
  split <;> rfl

theorem openRead_state (t : FileTree) (p : Path) : (fileSystem.openRead p t).state = t := by
  change (openRead p t).state = t
  unfold openRead
  split <;> rfl

theorem Plain.openUpdate_state (plain : t.Plain) (p : Path) : (fileSystem.openUpdate p t).state = t := by
  change (openUpdate p t).state = t
  unfold openUpdate
  split
  · rfl
  · next place node found =>
    split
    · rfl
    · next n u touched =>
      obtain ⟨-, here⟩ := lookup_eq_ok_iff.mp found
      exact (plain.touch_eq here touched).2

/-! ### Open files -/

/-- The open file stands at this place, if it stands anywhere. -/
def OpenAt (t : FileTree) (place : Place) : OpenFile → Prop
  | .file n _ => n < t.nextNumber ∧ ∀ p, t.node? p = some (.file n) → p = place
  | .directory => True

def OpenFile.at : OpenFile → Nat → OpenFile
  | .file n _, position => .file n position
  | .directory, _ => .directory

variable {f : OpenFile}

theorem openAt_at {position : Nat} : t.OpenAt place (f.at position) ↔ t.OpenAt place f := by
  cases f <;> exact Iff.rfl

theorem Confined.openAt {places : Place → Prop} (confined : Confined places t u)
    (opened : t.OpenAt place f) : u.OpenAt place f := by
  cases f with
  | directory => trivial
  | file n position =>
    obtain ⟨drawn, only⟩ := opened
    exact ⟨drawn.trans_le confined.grows, fun p stands => only p (confined.stays p n drawn stands)⟩

private theorem Plain.openAt (plain : t.Plain) {n : Nat} (here : t.node? place = some (.file n))
    (position : Nat) : t.OpenAt place (.file n position) :=
  ⟨plain.drawn place n here, fun p stands => plain.apart p place n stands here⟩

theorem Plain.openRead_openAt (plain : t.Plain) {p : Path}
    (opens : (fileSystem.openRead p t).answer = .ok f) : t.OpenAt (spelled p) f := by
  change (openRead p t).answer = .ok f at opens
  unfold openRead at opens
  split at opens
  · cases opens
  · next place n found =>
    obtain rfl := Except.ok.inj opens
    obtain ⟨resolves, here⟩ := lookup_eq_ok_iff.mp found
    obtain rfl := plain.resolve_eq resolves
    exact plain.openAt here 0
  · next found => exact absurd (lookup_eq_ok_iff.mp found).2 plain.no_hook
  · obtain rfl := Except.ok.inj opens
    trivial

theorem Plain.openUpdate_openAt (plain : t.Plain) {p : Path}
    (opens : (fileSystem.openUpdate p t).answer = .ok f) : t.OpenAt (spelled p) f := by
  change (openUpdate p t).answer = .ok f at opens
  unfold openUpdate at opens
  split at opens
  · cases opens
  · next place node found =>
    obtain ⟨resolves, here⟩ := lookup_eq_ok_iff.mp found
    obtain rfl := plain.resolve_eq resolves
    split at opens
    · cases opens
    · next n u touched =>
      obtain ⟨rfl, rfl⟩ := plain.touch_eq here touched
      obtain rfl := Except.ok.inj opens
      exact plain.openAt here 0

/-- Work that leaves the tree as it is and moves at most on in the open file. -/
def Moves {α : Type} (x : Action IoError (FileTree × OpenFile) α) : Prop :=
  ∀ q, ∃ position, (x q).state = (q.1, q.2.at position)

theorem moves_rewind : Moves fileSystem.rewind := by
  rintro ⟨t, _ | _⟩
  · exact ⟨0, rfl⟩
  · exact ⟨0, rfl⟩

theorem moves_readAll : Moves fileSystem.readAll := by
  rintro ⟨t, _ | _⟩
  · exact ⟨_, rfl⟩
  · exact ⟨0, rfl⟩

theorem moves_readUpTo (limit : Nat) : Moves (fileSystem.readUpTo limit) := by
  rintro ⟨t, _ | _⟩
  · exact ⟨_, rfl⟩
  · exact ⟨0, rfl⟩

theorem moves_control (request : UInt64) : Moves (fileSystem.control request) := by
  rintro ⟨t, f⟩
  have still : (fileSystem.control request (t, f)).state = (t, f) := by
    change (control request (t, f)).state = (t, f)
    unfold control
    split <;> rfl
  rw [still]
  cases f with
  | file n position => exact ⟨position, rfl⟩
  | directory => exact ⟨0, rfl⟩

theorem Plain.confined_overwrite (plain : t.Plain) (opened : t.OpenAt place f) (bytes : List UInt8) :
    Confined (· = place) t (fileSystem.overwrite bytes (t, f)).state.1 ∧
      ∃ position, (fileSystem.overwrite bytes (t, f)).state.2 = f.at position := by
  cases f with
  | directory => exact ⟨.refl plain, 0, rfl⟩
  | file n position => exact ⟨plain.confined_setBytes opened.2 _, _, rfl⟩

/-! ### Trees of directories and files -/

private theorem Plain.confined_setNode (plain : t.Plain) (absent : t.node? place = none) :
    Confined (· = place) t (t.setNode place .directory) := by
  have node (p : Place) : (t.setNode place .directory).node? p =
      if p = place then some .directory else t.node? p :=
    node?_put t _ (inside_of_absent absent) p
  have old {p : Place} {n : Nat} (stands : (t.setNode place .directory).node? p = some (.file n)) :
      t.node? p = some (.file n) := by
    rw [node] at stands
    split at stands
    · cases stands
    · exact stands
  refine ⟨⟨fun p found stands => ?_, fun p q n first second => ?_, fun p n stands => ?_⟩,
    fun p other => ⟨?_, fun _ _ => rfl⟩, fun p n _ stands => old stands, Nat.le_refl _⟩
  · rw [node] at stands
    split at stands
    · exact .inl (Option.some.inj stands).symm
    · exact plain.simple p found stands
  · exact plain.apart p q n (old first) (old second)
  · exact plain.drawn p n (old stands)
  · rw [node, if_neg other]

private theorem Plain.confined_foldl {α : Type} {step : FileTree → α → FileTree} {xs : List α}
    (confined : ∀ x ∈ xs, ∀ t : FileTree, t.Plain → Confined (fun _ => True) t (step t x)) (plain : t.Plain) :
    Confined (fun _ => True) t (xs.foldl step t) := by
  induction xs generalizing t with
  | nil => exact .refl plain
  | cons x xs ih =>
    have first := confined x List.mem_cons_self t plain
    exact first.trans (ih (fun y member => confined y (List.mem_cons_of_mem x member)) first.plain)

private theorem Plain.confined_makeDirectories (plain : t.Plain) (names : List String) :
    Confined (fun _ => True) t (t.makeDirectories names) := by
  refine Plain.confined_foldl (fun n _ t plain => ?_) plain
  split
  · split
    · next absent => exact (plain.confined_setNode (Option.isNone_iff_eq_none.mp absent)).anywhere
    · exact .refl plain
  · exact .refl plain

end FileTree

/-- Neither a link nor a hook. -/
def Entry.IsPlain : Entry → Prop
  | .file _ _ | .directory _ => True
  | .link _ _ | .hook _ _ => False

namespace FileTree

variable {t : FileTree}

private theorem Plain.confined_create (plain : t.Plain) {e : Entry} (ordinary : e.IsPlain) :
    Confined (fun _ => True) t (t.create e) := by
  cases e with
  | link path target | hook path entries => exact ordinary.elim
  | directory path => exact plain.confined_makeDirectories _
  | file path bytes =>
    have made := plain.confined_makeDirectories (namesOf path.text).dropLast
    refine made.trans ?_
    have plain := made.plain
    simp only [create]
    generalize t.makeDirectories (namesOf path.text).dropLast = u at plain ⊢
    split
    · exact .refl plain
    · next place resolves =>
      split
      · next n here =>
        exact (plain.confined_setBytes (fun p stands => plain.apart p _ n stands here) bytes).anywhere
      · next here => exact absurd here plain.no_hook
      · exact .refl plain
      · next absent => exact (plain.confined_newFile absent bytes).anywhere

theorem Plain.createAll (plain : t.Plain) {entries : List Entry} (ordinary : ∀ e ∈ entries, e.IsPlain) :
    (t.createAll entries).Plain :=
  (Plain.confined_foldl (fun e member _ plain => plain.confined_create (ordinary e member)) plain).plain

def Node.number? : Node → Option Nat
  | .file n => some n
  | _ => none

def Node.isPlain : Node → Bool
  | .file _ | .directory => true
  | .link _ | .hook _ _ => false

/-- Two files with one number. -/
def Node.Same (node node' : Node) : Prop :=
  ∃ n ∈ node.number?, n ∈ node'.number?

instance (node node' : Node) : Decidable (node.Same node') :=
  inferInstanceAs (Decidable (∃ n ∈ node.number?, n ∈ node'.number?))

/-- A table of directories, and of files with numbers of their own, is a plain tree. -/
theorem plain_of_pairs (simple : ∀ e ∈ t.nodes.pairs, e.2.isPlain = true)
    (apart : t.nodes.pairs.Pairwise fun e e' => ¬ e.2.Same e'.2)
    (drawn : ∀ e ∈ t.nodes.pairs, ∀ n ∈ e.2.number?, n < t.nextNumber) : t.Plain := by
  have listed {p : Place} {node : Node} (here : t.node? p = some node) :
      node = .directory ∨ (p, node) ∈ t.nodes.pairs := by
    unfold node? at here
    split at here
    · exact .inl (Option.some.inj here).symm
    · exact .inr (Assoc.mem_pairs_of_get? here)
  have file {p : Place} {n : Nat} (here : t.node? p = some (.file n)) : (p, .file n) ∈ t.nodes.pairs := by
    rcases listed here with contra | member
    · cases contra
    · exact member
  refine ⟨fun p node here => ?_, fun p q n first second => ?_, fun p n here => ?_⟩
  · rcases listed here with rfl | member
    · exact .inl rfl
    · have plain := simple _ member
      cases node with
      | directory => exact .inl rfl
      | file n => exact .inr ⟨n, rfl⟩
      | link | hook => cases plain
  · by_contra differs
    have symmetric : Std.Symm fun e e' : Place × Node => ¬ e.2.Same e'.2 := by
      refine ⟨fun _ _ other => ?_⟩
      rintro ⟨n, here, there⟩
      exact other ⟨n, there, here⟩
    have other := apart.forall (file first) (file second) fun same => differs (congrArg Prod.fst same)
    exact other ⟨n, rfl, rfl⟩
  · exact drawn _ (file here) n rfl

theorem plain_empty : Plain {} :=
  plain_of_pairs (fun _ none => nomatch none) .nil fun _ none => nomatch none

end Peripherals.FileTree

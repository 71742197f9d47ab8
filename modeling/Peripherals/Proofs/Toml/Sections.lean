import Peripherals.Proofs.Lookup
import Peripherals.Proofs.Toml.Entries
/-!
Whole texts of written sections: the text is read line by line, and the sections are added one after
the other to an outline that has none of their titles. Main statement: `ofText?_sectionsText`.
-/

set_option autoImplicit false

namespace Peripherals.Toml

/-- What a section says: its title, and values under their keys. -/
abbrev Section : Type := String × List (String × Toml)

/-! ### Lines -/

/-- A text is read as these lines, whatever larger number of them is allowed. -/
def Spells (s : List Char) (ls : List Line) : Prop :=
  ∀ n, s.length < n → lines n s = some ls

private theorem spells_nil : Spells [] [] := by
  intro n more
  match n, more with
  | n + 1, _ => rfl

private theorem Spells.feed {s : List Char} {ls : List Line} (h : Spells s ls) : Spells
    ('\n' :: s) ls := by
  intro n more
  match n, more with
  | n + 1, more =>
    have same : lines (n + 1) ('\n' :: s) = lines (n + 1) s := by simp [lines, skipVoid]
    exact same.trans (h (n + 1) (by simp at more; omega))

private theorem Spells.line {c : Char} {w rest : List Char} {l : Line} {ls : List Line}
    (shown : ∀ d ∈ [' ', '\t', '\n', '\r', '#'], c ≠ d)
    (read : Toml.line (c :: (w ++ '\n' :: rest)) = some (l, '\n' :: rest)) (h : Spells rest ls) :
    Spells (c :: (w ++ '\n' :: rest)) (l :: ls) := by
  intro n more
  match n, more with
  | n + 1, more =>
    have kept : skipVoid false (c :: (w ++ '\n' :: rest)) = c :: (w ++ '\n' :: rest) := by
      simp at shown
      simp [skipVoid, shown]
    have ends : endLine? ('\n' :: rest) = some rest := rfl
    have tail := h n (by simp at more; omega)
    simp [lines, kept, read, ends, tail]

def entryLine (e : String × Toml) : Line :=
  .entry [e.1] e.2

/-- The line of a value under its key. -/
def IsEntry (w : List Char) (e : String × Toml) : Prop :=
  isBareKey e.1 = true ∧ ∃ value, Writes value e.2 ∧ w = keyLine e.1 value

/-- The text of a section. -/
def IsSection (w : List Char) (s : Section) : Prop :=
  isBareKey s.1 = true ∧ ∃ ws, List.Forall₂ IsEntry ws s.2 ∧ w = sectionText s.1 ws

def sectionLines (s : Section) : List Line :=
  .table [s.1] :: s.2.map entryLine

private theorem Spells.entry {w rest : List Char} {e : String × Toml} {ls : List Line}
    (written : IsEntry w e)
    (h : Spells rest ls) : Spells (w ++ rest) (entryLine e :: ls) := by
  obtain ⟨bare, value, writes, rfl⟩ := written
  obtain ⟨c, t, begins, other⟩ := bareKey_front bare
  have read := line_keyLine bare writes rest
  have spelled : keyLine e.1 value ++ rest = c :: (t ++ [' ', '=', ' '] ++ value ++ '\n' :: rest) := by
    simp [keyLine, begins]
  rw [spelled] at read ⊢
  have void : ∀ d ∈ [' ', '\t', '\n', '\r', '#'], isBare d = false := by simp [isBare]
  exact h.line (fun d member => other d (void d member)) read

private theorem Spells.entries {ws : List (List Char)} {es : List (String × Toml)} {rest : List Char}
    {ls : List Line} (written : List.Forall₂ IsEntry ws es) (h : Spells rest ls) :
    Spells (ws.flatten ++ rest) (es.map entryLine ++ ls) := by
  induction written with
  | nil => exact h
  | cons first _ ih => simpa using Spells.entry first ih

private theorem Spells.section {w rest : List Char} {s : Section} {ls : List Line}
    (written : IsSection w s)
    (h : Spells rest ls) : Spells (w ++ rest) (sectionLines s ++ ls) := by
  obtain ⟨bare, ws, entries, rfl⟩ := written
  have below := Spells.entries entries h
  have read := line_header bare ('\n' :: (ws.flatten ++ rest))
  have spelled : sectionText s.1 ws ++ rest =
      '[' :: ((s.1.toList ++ [']']) ++ '\n' :: (ws.flatten ++ rest)) := by
    simp [sectionText]
  rw [spelled]
  exact below.line (by simp) (by simpa using read)

private theorem spells_sectionsText {ws : List (List Char)} {ss : List Section}
    (written : List.Forall₂ IsSection ws ss) :
    Spells (sectionsText ws) (ss.flatMap sectionLines) := by
  induction written with
  | nil => exact spells_nil
  | @cons w s ws ss first more ih =>
    cases more with
    | nil => simpa [sectionsText] using Spells.section first spells_nil
    | cons second more =>
      have apart := Spells.section first ih.feed
      simpa [sectionsText, List.intercalate] using apart

/-! ### The outline -/

section Outline

variable {fields : Fields} {k : String}

private theorem putField_fresh (fresh : k ∉ fields.map (·.1)) (n : Node) :
    putField k n fields = fields ++ [(k, n)] := by
  induction fields with
  | nil => rfl
  | cons f fields ih =>
    simp only [List.map_cons, List.mem_cons, not_or] at fresh
    simp [putField, Ne.symm fresh.1, ih fresh.2]

private theorem addEntry_fresh (fresh : k ∉ fields.map (·.1)) (v : Toml) :
    addEntry [k] v fields = some (fields ++ [(k, .value v)]) := by
  simp [addEntry, splitLast?, change, lookup_fresh fresh]

private theorem addTable_fresh (fresh : k ∉ fields.map (·.1)) {es : List (List String × Toml)}
    {inner : Fields} (below : addEntries es [] = some inner) :
    addTable [k] es fields = some (fields ++ [(k, .table .header inner)]) := by
  simp [addTable, splitLast?, change, lookup_fresh fresh, below, putField_fresh fresh]

end Outline

def sectionNode (s : Section) : String × Node :=
  (s.1, .table .header (s.2.map fun e => (e.1, .value e.2)))

private theorem addEntries_fresh {es : List (String × Toml)} (fields : Fields)
    (fresh : (fields.map (·.1) ++ es.map (·.1)).Nodup) :
    addEntries (es.map fun e => ([e.1], e.2)) fields =
      some (fields ++ es.map fun e => (e.1, .value e.2)) := by
  induction es generalizing fields with
  | nil => simp [addEntries]
  | cons e es ih =>
    have first : e.1 ∉ fields.map (·.1) := fun member =>
      (List.nodup_append.mp fresh).2.2 _ member _ List.mem_cons_self rfl
    have tail := ih (fields ++ [(e.1, .value e.2)]) (by simpa using fresh)
    have step := addEntry_fresh first e.2
    simp only [addEntries] at tail ⊢
    simpa [step] using tail

private theorem leadingEntries_section (es : List (String × Toml)) (ss : List Section) :
    leadingEntries (es.map entryLine ++ ss.flatMap sectionLines) =
      (es.map fun e => ([e.1], e.2), ss.flatMap sectionLines) := by
  induction es with
  | nil => cases ss <;> rfl
  | cons e es ih => simp [entryLine, leadingEntries, ih, Text.ahead] 

private theorem addSections_fresh {ss : List Section} (fields : Fields) {n : Nat}
    (titles : (fields.map (·.1) ++ ss.map (·.1)).Nodup) (keys : ∀ s ∈ ss, (s.2.map (·.1)).Nodup)
    (enough : (ss.flatMap sectionLines).length ≤ n) :
    addSections n (ss.flatMap sectionLines) fields = some (fields ++ ss.map sectionNode) := by
  induction ss generalizing fields n with
  | nil => simp [addSections]
  | cons s ss ih =>
    have first : s.1 ∉ fields.map (·.1) := fun member =>
      (List.nodup_append.mp titles).2.2 _ member _ List.mem_cons_self rfl
    have inner := addEntries_fresh [] (keys s List.mem_cons_self)
    have step := addTable_fresh first inner
    match n, enough with
    | 0, enough => simp [sectionLines] at enough
    | n + 1, enough =>
      have tail := ih (fields ++ [sectionNode s]) (n := n) (by simpa [sectionNode] using titles)
        (fun t h => keys t (List.mem_cons_of_mem _ h)) (by simp [sectionLines] at enough ⊢; omega)
      have read : addSections (n + 1) ((s :: ss).flatMap sectionLines) fields =
          addSections n (ss.flatMap sectionLines) (fields ++ [sectionNode s]) := by
        simp [sectionLines, addSections, leadingEntries_section, step, sectionNode]
      rw [read, tail, List.append_assoc]
      rfl

private theorem fieldValues_values (es : List (String × Toml)) :
    fieldValues (es.map fun e => (e.1, .value e.2)) = es := by
  induction es with
  | nil => rfl
  | cons e es ih => simp [fieldValues, nodeValue, ih]

private theorem fieldValues_sections (ss : List Section) :
    fieldValues (ss.map sectionNode) = ss.map fun s => (s.1, .table s.2) := by
  induction ss with
  | nil => rfl
  | cons s ss ih => simp [fieldValues, nodeValue, sectionNode, fieldValues_values, ih]

private theorem skipMark_sectionsText {ws : List (List Char)} {ss : List Section}
    (written : List.Forall₂ IsSection ws ss) : skipMark (sectionsText ws) = sectionsText ws := by
  cases written with
  | nil => rfl
  | cons first more =>
    obtain ⟨-, lines, -, rfl⟩ := first
    cases more <;> rfl

/-- **A written text spells its sections**: each is a table of its values, in order. -/
theorem ofText?_sectionsText {ws : List (List Char)} {ss : List Section}
    (written : List.Forall₂ IsSection ws ss) (titles : (ss.map (·.1)).Nodup)
    (keys : ∀ s ∈ ss, (s.2.map (·.1)).Nodup) :
    ofText? (String.ofList (sectionsText ws)) = some (.table (ss.map fun s => (s.1, .table s.2))) := by
  have read := spells_sectionsText written ((sectionsText ws).length + 1) (Nat.lt_succ_self _)
  have added := addSections_fresh [] (by simpa using titles) keys
    (Nat.le_refl (ss.flatMap sectionLines).length)
  simp only [ofText?, String.toList_ofList, skipMark_sectionsText written, read, added,
    Option.bind_eq_bind, Option.bind_some, List.nil_append, fieldValues_sections]

end Peripherals.Toml

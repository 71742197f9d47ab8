import Peripherals.Proofs.Gpio.OpenLines
/-!
Requests for lines whose attributes are there. Main statement: what a request leaves in the attributes
is what it asks for, whatever an earlier owner of the line has left in them, but for the edge of an
input that asks for none.
-/

set_option autoImplicit false

namespace Peripherals.Gpio.Sysfs

open FileTree (OpenFile fileSystem)

/-- The files of a line by their numbers. -/
structure Files where
  direction : Nat
  edge : Nat
  value : Nat

/-- The attributes of a line are three regular files. -/
structure Regular (g : Sysfs) (line : UInt32) (t : FileTree) (files : Files) : Prop where
  direction : t.fileAt? ((g.lineDir line).join "direction") = some files.direction
  edge : t.fileAt? ((g.lineDir line).join "edge") = some files.edge
  value : t.fileAt? ((g.lineDir line).join "value") = some files.value
  apart : files.direction ≠ files.edge ∧ files.direction ≠ files.value ∧ files.edge ≠ files.value

variable {g : Sysfs} {c : Config} {t : FileTree} {files : Files}

/-- The tree after the attributes of a line were set up. -/
def prepared (c : Config) (files : Files) (t : FileTree) : FileTree :=
  let t := t.setBytes files.direction (Text.bytesOf (directionWord c))
  if c.direction = .input ∧ c.edge ≠ .none then t.setBytes files.edge (Text.bytesOf c.edge.name)
  else t

/-! ### A request step by step -/

private theorem Regular.setBytes {line : UInt32} (regular : g.Regular line t files) (n : Nat)
    (bytes : List UInt8) : g.Regular line (t.setBytes n bytes) files where
  direction := (t.fileAt?_setBytes n bytes _).trans regular.direction
  edge := (t.fileAt?_setBytes n bytes _).trans regular.edge
  value := (t.fileAt?_setBytes n bytes _).trans regular.value
  apart := regular.apart

private theorem openValue_regular (regular : g.Regular c.line t files) : openValue fileSystem g c t =
    ⟨.ok ⟨(g.lineDir c.line).join "value", .file files.value 0⟩, [], t⟩ := by
  unfold openValue
  cases c.direction with
  | input => exact Attribute.openRead_file regular.value
  | output => exact Attribute.openUpdate_file regular.value

private theorem configure_regular (regular : g.Regular c.line t files) : configure fileSystem g c t =
    ⟨.ok ⟨(g.lineDir c.line).join "value", .file files.value 0⟩, [], prepared c files t⟩ := by
  rw [configure_eq, Action.bind_apply, Attribute.store_file regular.direction, prepared]
  have regular' := regular.setBytes files.direction (Text.bytesOf (directionWord c))
  by_cases waits : c.direction = .input ∧ c.edge ≠ .none
  · simp only [if_pos waits, Action.bind_apply, Attribute.store_file regular'.edge,
      openValue_regular (regular'.setBytes _ _)]
    rfl
  · simp only [if_neg waits, Action.bind_apply, Action.pure_apply, openValue_regular regular']
    rfl

private theorem lineDir_solid (g : Sysfs) (line : UInt32) : (g.lineDir line).Solid := by
  obtain ⟨front, last, text, other⟩ := (Path.numbered_text "gpio" line).1
  exact Path.solid_join _ _ text other

private theorem claim_regular (regular : g.Regular c.line t files) : claim fileSystem g c t =
    ⟨.ok ⟨c.line, false, ⟨(g.lineDir c.line).join "value", .file files.value 0⟩⟩, [],
      prepared c files t⟩ := by
  have present : (fileSystem.isPresent (g.lineDir c.line) : Action Fault FileTree Bool) t =
      ⟨.ok true, [], t⟩ :=
    FileTree.isPresent_of_fileAt? (g.lineDir_solid c.line) (by decide : "value" ≠ "") (by decide)
      regular.value
  rw [claim_eq]
  exact Exporting.claim_present _ _ _ present (configure_regular regular)

section Desks

variable {d : Desk FileTree Config (Line OpenFile)}

theorem request_free_regular (regular : g.Regular c.line d.device files)
    (free : d.leases.containsKey c.line = false) :
    ((driver fileSystem g).perform (.request c) d).answer = .ok (.granted ⟨d.counter⟩) ∧
      ((driver fileSystem g).perform (.request c) d).state =
        d.lend c.line (prepared c files d.device)
          ⟨c, c.line, false, (g.lineDir c.line).join "value", .file files.value 0⟩ := by
  have claimed := claim_regular regular
  exact (driver fileSystem g).device.map_request_ok Answer.granted (s := c) free
    (congrArg Outcome.answer claimed) (congrArg Outcome.state claimed)

theorem hasOpen_of_request (regular : g.Regular c.line d.device files)
    (free : d.leases.containsKey c.line = false) :
    HasOpen ((driver fileSystem g).perform (.request c) d).state ⟨d.counter⟩ c.line c
      ((g.lineDir c.line).join "value") files.value := by
  rw [(request_free_regular regular free).2]
  exact ⟨_, (HandleTable.slots_entered _ _ _ _).trans (if_pos rfl), rfl, 0, rfl⟩

private theorem request_busy (busy : d.leases.containsKey c.line = true) :
    ((driver fileSystem g).perform (.request c) d).answer =
      .error ((driver fileSystem g).device.taken c) := by
  have work : (driver fileSystem g).perform (.request c) d = _ :=
    Action.map_apply Answer.granted ((driver fileSystem g).request c) d
  have refused := (driver fileSystem g).device.request_taken (s := c) busy
  rw [work]
  exact congrArg (fun x => Except.map Answer.granted x.answer) refused

end Desks

theorem prepared_bytes (c : Config) (files : Files) (t : FileTree) (n : Nat) :
    (prepared c files t).bytes n =
      if n = files.edge ∧ c.direction = .input ∧ c.edge ≠ .none then Text.bytesOf c.edge.name
      else if n = files.direction then Text.bytesOf (directionWord c) else t.bytes n := by
  unfold prepared
  by_cases waits : c.direction = .input ∧ c.edge ≠ .none
  · simp only [if_pos waits, FileTree.bytes_setBytes, and_iff_left waits]
  · simp only [FileTree.bytes_setBytes, waits, and_false, if_false]

private theorem Regular.prepared {line : UInt32} (regular : g.Regular line t files) (c : Config) :
    g.Regular line (prepared c files t) files := by
  unfold Sysfs.prepared
  split
  · exact (regular.setBytes _ _).setBytes _ _
  · exact regular.setBytes _ _

def oneLine (direction edge value : List UInt8) : FileTree where
  nodes := ⟨[(["class"], .directory), (["class", "gpio"], .directory),
    (["class", "gpio", "gpio4"], .directory), (["class", "gpio", "gpio4", "direction"], .file 0),
    (["class", "gpio", "gpio4", "edge"], .file 1), (["class", "gpio", "gpio4", "value"], .file 2)]⟩
  contents := ⟨[(0, direction), (1, edge), (2, value)]⟩
  nextNumber := 3

theorem fourth_regular {t : FileTree} (grounded : t.Grounded ["class", "gpio", "gpio4"])
    (direction : t.node? ["class", "gpio", "gpio4", "direction"] = some (.file 0))
    (edge : t.node? ["class", "gpio", "gpio4", "edge"] = some (.file 1))
    (value : t.node? ["class", "gpio", "gpio4", "value"] = some (.file 2)) :
    Regular ⟨⟨""⟩⟩ 4 t ⟨0, 1, 2⟩ := by
  let dir := lineDir ⟨⟨""⟩⟩ 4
  let place := ["class", "gpio", "gpio4"]
  have parted : FileTree.parts dir.text.toList = place := by decide +kernel
  have spelled : ∀ name ∈ ["direction", "edge", "value"],
      (dir.join name).text.toList.any (fun c => c.toNat == 0) = false ∧ (dir.join name).text ≠ "" ∧
        (dir.join name).text.utf8ByteSize ≤ FileTree.pathLimit ∧
        FileTree.startOf [] (dir.join name).text = [] ∧ '/' ∉ name.toList ∧
        ∀ x ∈ place ++ [name], FileTree.Ordinary x := by decide +kernel
  have file {name : String} (member : name ∈ ["direction", "edge", "value"]) {n : Nat}
      (here : t.node? (place ++ [name]) = some (.file n)) : t.fileAt? (dir.join name) = some n := by
    obtain ⟨chars, filled, short, start, clean, ordinary⟩ := spelled name member
    have names := FileTree.namesOf_join dir (ordinary name (by simp)).1 clean
    rw [parted] at names
    exact FileTree.fileAt?_of_straight ⟨chars, filled, short⟩ start names ordinary grounded here
  exact ⟨file (by decide) direction, file (by decide) edge, file (by decide) value, by decide⟩

theorem oneLine_regular (direction edge value : List UInt8) :
    Regular ⟨⟨""⟩⟩ 4 (oneLine direction edge value) ⟨0, 1, 2⟩ := by
  let t := oneLine direction edge value
  have above : t.Grounded ["class"] := t.grounded_nil.concat rfl
  have inside : t.Grounded ["class", "gpio"] := above.concat rfl
  exact fourth_regular (inside.concat rfl) rfl rfl rfl

/-- Where the attributes of a line are three regular files, whatever they hold, a request for the line
succeeds unless the line is taken. It leaves the word for direction and level in the first, and nothing
new in the value. An input that asks for an edge has its edge in the third; any other request leaves the
edge that it found. No other file changes, and the attributes stay where they are. -/
theorem request_sets_what_it_asks_for (g : Sysfs) (c : Config) (files : Files)
    (d : Desk FileTree Config (Line OpenFile)) (regular : g.Regular c.line d.device files) :
    let asked := (driver fileSystem g).perform (.request c) d
    let before := d.device
    let after := asked.state.device
    ((∃ h, asked.answer = .ok (.granted h)) ↔ d.leases.containsKey c.line = false) ∧
    ∀ answer, asked.answer = .ok answer →
      g.Regular c.line after files ∧
      (c.direction = .input → after.bytes files.direction = Text.bytesOf "in") ∧
      (c.direction = .output → c.initial = true → after.bytes files.direction = Text.bytesOf "high") ∧
      (c.direction = .output → c.initial = false → after.bytes files.direction = Text.bytesOf "low") ∧
      after.bytes files.value = before.bytes files.value ∧
      (c.direction = .input → c.edge ≠ .none →
        after.bytes files.edge = Text.bytesOf c.edge.name) ∧
      (c.direction = .output ∨ c.edge = .none →
        after.bytes files.edge = before.bytes files.edge) ∧
      ∀ n, n ≠ files.direction → n ≠ files.edge → after.bytes n = before.bytes n := by
  intro asked before after
  cases taken : d.leases.containsKey c.line with
  | true =>
    have refused : asked.answer = .error _ := request_busy taken
    constructor
    · rw [refused]
      exact ⟨(fun ⟨h, contra⟩ => nomatch contra), (fun contra => nomatch contra)⟩
    · intro answer contra
      rw [refused] at contra
      cases contra
  | false =>
    obtain ⟨granted, entered⟩ := request_free_regular regular taken
    have left : after = prepared c files before := congrArg Desk.device entered
    obtain ⟨edge, value, value'⟩ := regular.apart
    have word : after.bytes files.direction = Text.bytesOf (directionWord c) := by
      rw [left, prepared_bytes, if_neg (fun same => edge same.1), if_pos rfl]
    refine ⟨⟨fun _ => rfl, fun _ => ⟨_, granted⟩⟩, fun answer _ => ⟨?_, ?_, ?_, ?_, ?_, ?_, ?_, ?_⟩⟩
    · rw [left]
      exact regular.prepared c
    · intro input
      rw [word, directionWord, input]
    · intro output high
      rw [word, directionWord, output, high]
    · intro output low
      rw [word, directionWord, output, low]
    · rw [left, prepared_bytes, if_neg (fun same => value' same.1.symm), if_neg value.symm]
    · intro input asks
      rw [left, prepared_bytes, if_pos ⟨rfl, input, asks⟩]
    · intro asksNot
      have waitsNot : ¬ (files.edge = files.edge ∧ c.direction = .input ∧ c.edge ≠ .none) := by
        rintro ⟨-, input, asks⟩
        rcases asksNot with output | none
        · rw [input] at output
          cases output
        · exact asks none
      rw [left, prepared_bytes, if_neg waitsNot, if_neg edge.symm]
    · intro n other other'
      rw [left, prepared_bytes, if_neg (fun same => other' same.1), if_neg other]

/-- A request for an input that waits for rising edges, on a line that was an output with both edges on. -/
theorem rising_input_after_output :
    let g : Sysfs := ⟨⟨""⟩⟩
    let c := (Config.input 4).withEdge .rising
    let t := oneLine (Text.bytesOf "high") (Text.bytesOf "both") (Text.bytesOf "1\n")
    let asked := (driver fileSystem g).perform (.request c) (Desk.vacant t 0)
    (∃ h, asked.answer = .ok (.granted h)) ∧
      asked.state.device.bytes 0 = Text.bytesOf "in" ∧
      asked.state.device.bytes 1 = Text.bytesOf "rising" ∧
      asked.state.device.bytes 2 = Text.bytesOf "1\n" := by
  intro g c t asked
  obtain ⟨free, leaves⟩ := request_sets_what_it_asks_for g c ⟨0, 1, 2⟩ (Desk.vacant t 0)
    (oneLine_regular _ _ _)
  obtain ⟨h, granted⟩ := free.mpr rfl
  obtain ⟨-, word, -, -, value, edge, -⟩ := leaves _ granted
  exact ⟨⟨h, granted⟩, word rfl, edge rfl (by decide), value⟩

/-- A line is requested for both edges and given back. An input that asks for no edge then gets the line
with both edges still on. -/
theorem edge_of_earlier_request_stays :
    let g : Sysfs := ⟨⟨""⟩⟩
    let t := oneLine (Text.bytesOf "in") (Text.bytesOf "none") (Text.bytesOf "0\n")
    let perform := (driver fileSystem g).perform
    let left := Action.runAll perform [.request ((Config.input 4).withEdge .both), .release ⟨0⟩]
      (Desk.vacant t 0)
    let asked := perform (.request (Config.input 4)) left
    g.Regular 4 left.device ⟨0, 1, 2⟩ ∧ (Config.input 4).edge = .none ∧
      asked.answer = .ok (.granted ⟨1⟩) ∧ asked.state.device.bytes 1 = Text.bytesOf "both" ∧
      Text.bytesOf "both" ≠ Text.bytesOf Edge.none.name := by
  intro g t perform left asked
  have regular := oneLine_regular (Text.bytesOf "in") (Text.bytesOf "none") (Text.bytesOf "0\n")
  obtain ⟨-, first⟩ := request_free_regular (g := g) (c := (Config.input 4).withEdge .both)
    (d := Desk.vacant t 0) regular rfl
  have back : left = { device := prepared ((Config.input 4).withEdge .both) ⟨0, 1, 2⟩ t, counter := 1 } := by
    change (perform (.release ⟨0⟩) (perform (.request _) (Desk.vacant t 0)).state).state = _
    simp only [perform, first]
    rfl
  have regular' : g.Regular 4 left.device ⟨0, 1, 2⟩ := by
    rw [back]
    exact regular.prepared ((Config.input 4).withEdge .both)
  have free : left.leases.containsKey 4 = false := by
    rw [back]
    rfl
  obtain ⟨granted, second⟩ := request_free_regular (g := g) (c := Config.input 4) (d := left) regular' free
  refine ⟨regular', rfl, ?_, ?_, by decide⟩
  · have counter : left.counter = 1 := congrArg Desk.counter back
    rw [counter] at granted
    exact granted
  · have device : asked.state.device = prepared (Config.input 4) ⟨0, 1, 2⟩ left.device :=
      congrArg Desk.device second
    rw [device, prepared_bytes, back]
    rw [if_neg (by decide), if_neg (by decide), prepared_bytes, if_pos ⟨rfl, rfl, by decide⟩]
    rfl

end Peripherals.Gpio.Sysfs

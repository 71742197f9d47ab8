import Peripherals.Proofs.Files.Territories
import Peripherals.Proofs.Gpio.Requests
/-!
Which files belong to what. Main statement: a command changes at most the files of the line or channel
that it is about, no two of which have an attribute in common.
-/

set_option autoImplicit false

namespace Peripherals

open FileTree (Place OpenFile Confined Dotless fileSystem spelled parts)

/-- What the drivers hand out below a root. -/
inductive Resource where
  | line (n : UInt32)
  | channel (chip pin : UInt32)
  | input (device pin : UInt32)
  deriving DecidableEq

namespace Resource

/-- The directory of a line or a channel, or the attribute of an input. -/
def path (root : Path) : Resource → Path
  | .line n => Gpio.Sysfs.lineDir ⟨root⟩ n
  | .channel chip pin => Pwm.Sysfs.channelDir ⟨root, chip⟩ pin
  | .input device pin => Adc.Iio.channelPath ⟨root, device⟩ pin

/-- The places that belong to a resource. The attribute of an input is only read. -/
def Owns (root : Path) : Resource → Place → Prop
  | .line n => Gpio.Sysfs.Owns ⟨root⟩ n
  | .channel chip pin => Pwm.Sysfs.Owns ⟨root, chip⟩ pin
  | .input _ _ => fun _ => False

/-! ### By their names -/

def names : Resource → List String
  | .line n => ["class", "gpio", Path.numbered "gpio" n]
  | .channel chip pin => ["class", "pwm", Path.numbered "pwmchip" chip, Path.numbered "pwm" pin]
  | .input device pin =>
    ["bus", "iio", "devices", Path.numbered "iio:device" device, Path.numbered "in_voltage" pin ++ "_raw"]

private theorem spelled_numbered (dir : Path) {stem : String} {initial : Char}
    (head : stem.toList.head? = some initial) (dot : initial ≠ '.') (clean : '/' ∉ stem.toList)
    (n : UInt32) : spelled (dir.join (Path.numbered stem n)) = spelled dir ++ [Path.numbered stem n] :=
  FileTree.spelled_join_name dir (FileTree.dotless_of_head (Path.numbered_head head n) dot) (Path.clean_numbered clean n)

private theorem spelled_classDir (root : Path) :
    spelled (Gpio.Sysfs.classDir ⟨root⟩) = spelled root ++ ["class", "gpio"] :=
  FileTree.spelled_join_names root (by decide) (by decide +kernel) (by decide)

private theorem spelled_chipDir (root : Path) (chip : UInt32) :
    spelled (Pwm.Sysfs.chipDir ⟨root, chip⟩) = spelled root ++ ["class", "pwm", Path.numbered "pwmchip" chip] := by
  have classDir : spelled (root.join "class/pwm") = spelled root ++ ["class", "pwm"] :=
    FileTree.spelled_join_names root (by decide) (by decide +kernel) (by decide)
  rw [Pwm.Sysfs.chipDir, spelled_numbered _ rfl (by decide) (by decide), classDir, List.append_assoc]
  rfl

private theorem raw_head (pin : UInt32) :
    (Path.numbered "in_voltage" pin ++ "_raw").toList.head? = some 'i' := by
  rw [String.toList_append, List.head?_append, Path.numbered_head (c := 'i') rfl pin]
  rfl

private theorem clean_raw (pin : UInt32) : '/' ∉ (Path.numbered "in_voltage" pin ++ "_raw").toList := by
  rw [String.toList_append]
  intro slash
  rcases List.mem_append.mp slash with early | late
  · exact Path.clean_numbered (by decide) pin early
  · exact absurd late (by decide)

private theorem spelled_path (root : Path) (r : Resource) : spelled
    (r.path root) = spelled root ++ r.names := by
  cases r with
  | line n =>
    rw [path, Gpio.Sysfs.lineDir, spelled_numbered _ rfl (by decide) (by decide), spelled_classDir,
      List.append_assoc]
    rfl
  | channel chip pin =>
    rw [path, Pwm.Sysfs.channelDir, spelled_numbered _ rfl (by decide) (by decide), spelled_chipDir,
      List.append_assoc]
    rfl
  | input device pin =>
    have devices : spelled (root.join "bus/iio/devices") = spelled root ++ ["bus", "iio", "devices"] :=
      FileTree.spelled_join_names root (by decide) (by decide +kernel) (by decide)
    have dotless : Dotless (Path.numbered "in_voltage" pin ++ "_raw") :=
      FileTree.dotless_of_head (raw_head pin) (by decide)
    rw [path, Adc.Iio.channelPath, FileTree.spelled_join_name _ dotless (clean_raw pin), Adc.Iio.deviceDir,
      spelled_numbered _ rfl (by decide) (by decide), devices, List.append_assoc, List.append_assoc]
    rfl

private theorem spelled_within (root : Path) (r : Resource) {name : String} (dotless : Dotless name)
    (clean : '/' ∉ name.toList) :
    spelled ((r.path root).join name) = spelled root ++ (r.names ++ [name]) := by
  rw [FileTree.spelled_join_name _ dotless clean, spelled_path, List.append_assoc]

private theorem Owns.names {root : Path} {r : Resource} {place : Place} (own : r.Owns root place) :
    ∃ name, (name ∈ ["export", "unexport"] ∧ place = spelled root ++ (r.names.dropLast ++ [name])) ∨
      place = spelled root ++ (r.names ++ [name]) := by
  have port : ∀ name ∈ ["export", "unexport"], Dotless name ∧ '/' ∉ name.toList := by decide
  cases r with
  | line n =>
    cases own with
    | @port name member =>
      obtain ⟨dotless, clean⟩ := port name member
      refine ⟨name, .inl ⟨member, ?_⟩⟩
      rw [FileTree.spelled_join_name _ dotless clean, spelled_classDir, List.append_assoc]
      rfl
    | @within name member =>
      have inner : ∀ name ∈ ["direction", "edge", "value"], Dotless name ∧ '/' ∉ name.toList := by decide
      obtain ⟨dotless, clean⟩ := inner name member
      exact ⟨name, .inr (spelled_within root (.line n) dotless clean)⟩
  | channel chip pin =>
    cases own with
    | @port name member =>
      obtain ⟨dotless, clean⟩ := port name member
      refine ⟨name, .inl ⟨member, ?_⟩⟩
      rw [FileTree.spelled_join_name _ dotless clean, spelled_chipDir, List.append_assoc]
      rfl
    | within part =>
      have inner : Dotless part.name ∧ '/' ∉ part.name.toList := by cases part <;> decide
      exact ⟨part.name, .inr (spelled_within root (.channel chip pin) inner.1 inner.2)⟩
  | input device pin => exact own.elim

/-! ### Apart -/

private theorem eq_of_names_within {r r' : Resource} {name : String}
    (front : r'.names <+: r.names ++ [name]) :
    r' = r := by
  cases r <;> cases r'
  case line.line =>
    obtain rfl := Path.numbered_injective (by simpa [names] using front)
    rfl
  case channel.channel =>
    obtain ⟨chips, pins⟩ : _ ∧ _ := by simpa [names] using front
    obtain rfl := Path.numbered_injective chips
    obtain rfl := Path.numbered_injective pins
    rfl
  case input.input =>
    obtain ⟨devices, pins⟩ : _ ∧ _ := by simpa [names] using front
    obtain rfl := Path.numbered_injective devices
    obtain rfl := Path.numbered_injective pins
    rfl
  all_goals simp [names] at front

private theorem ne_port {text name : String} {c : Char} (head : text.toList.head? = some c)
    (other : c ≠ 'e' ∧ c ≠ 'u') (port : name ∈ ["export", "unexport"]) : text ≠ name := by
  have begins : ∀ name ∈ ["export", "unexport"], name.toList.head? = some 'e' ∨ name.toList.head? = some 'u' := by
    decide
  rintro rfl
  rcases begins _ port with e | u
  · exact other.1 (Option.some.inj (head.symm.trans e))
  · exact other.2 (Option.some.inj (head.symm.trans u))

private theorem port_apart {name : String} (port : name ∈ ["export", "unexport"]) (r r' : Resource) :
    ¬ r'.names <+: r.names.dropLast ++ [name] := by
  intro front
  cases r <;> cases r'
  case line.line m n =>
    exact ne_port (c := 'g') (Path.numbered_head rfl n) (by decide) port (by simpa [names] using front)
  case channel.channel pin chip' pin' =>
    obtain ⟨-, same⟩ : _ ∧ _ := by simpa [names] using front
    exact ne_port (c := 'p') (Path.numbered_head rfl _) (by decide) port same
  case input.input pin' =>
    obtain ⟨-, same⟩ : _ ∧ _ := by simpa [names] using front
    exact ne_port (raw_head _) (by decide) port same
  all_goals simp [names] at front

private theorem path_injective (root : Path) : Function.Injective (path root) := by
  intro r r' same
  have places : spelled root ++ r.names = spelled root ++ r'.names := by
    rw [← spelled_path, ← spelled_path, same]
  rw [List.append_cancel_left_eq] at places
  have front : r.names <+: r'.names ++ [""] := by
    rw [places]
    exact List.prefix_append _ _
  exact eq_of_names_within front

private theorem Owns.apart {root : Path} {r r' : Resource} {place : Place} (own : r.Owns root place)
    (other : r ≠ r') : ¬ spelled (r'.path root) <+: place := by
  intro below
  rw [spelled_path] at below
  obtain ⟨name, ⟨port, rfl⟩ | rfl⟩ := own.names
  · exact port_apart port r r' ((List.prefix_append_right_inj _).mp below)
  · exact other (eq_of_names_within ((List.prefix_append_right_inj _).mp below)).symm

end Resource

/-! ### Runs -/

/-- The line that a command is about, if it is about one at all. -/
def Gpio.Command.line? {C : Type} (d : Desk FileTree Config C) : Command → Option UInt32
  | .request c => some c.line
  | .release h | .level h | .drive h _ | .name h | .direction h | .line h => d.leases.keyOf? h

/-- The channel of its chip that a command is about, if it is about one at all. -/
def Pwm.Command.pin? {C : Type} (d : Desk FileTree Signal C) : Command → Option UInt32
  | .request c => some c.pin
  | .release h | .enable h | .disable h | .setPeriod h _ | .setDuty h _ | .setPolarity h _ | .config h
  | .isEnabled h => d.leases.keyOf? h

/-- A tree that is made of directories and files is plain. In a plain tree, after every run of commands
while others change the tree as well, a command to a desk of lines or channels changes or makes at most
the export files of its class and the attributes of the line or channel that it is about, and the end of
the desk those of the lines or channels that are leased. Desks of inputs change nothing in any tree. Below
one root different resources have different paths, and nothing that belongs to one is at the path of
another or below it. -/
theorem drivers_touch_only_their_files :
    (∀ entries : List Entry, (∀ e ∈ entries, e.IsPlain) → (FileTree.createAll {} entries).Plain) ∧
    (∀ (g : Gpio.Sysfs) (t : FileTree), t.Plain →
      ∀ (counter : Nat) (os : List (Occurrence Gpio.Command Interference)),
      let d := Gpio.Sysfs.driver fileSystem g
      (Action.runAll (Occurrence.perform d.perform Interference.change) os (Desk.vacant t counter)).Framed
        d.device d.perform Gpio.Command.line? g.Owns) ∧
    (∀ (s : Pwm.Sysfs) (t : FileTree), t.Plain →
      ∀ (counter : Nat) (os : List (Occurrence Pwm.Command Interference)),
      let d := Pwm.Sysfs.driver fileSystem s
      (Action.runAll (Occurrence.perform d.perform Interference.change) os (Desk.vacant t counter)).Framed
        d.device d.perform Pwm.Command.pin? s.Owns) ∧
    (∀ (i : Adc.Iio) (desk : Desk FileTree Adc.Config (Adc.Iio.Channel OpenFile)),
      let d := Adc.Iio.driver fileSystem i
      (∀ k, (d.perform k desk).state.device = desk.device) ∧
        (d.device.teardown desk).state.device = desk.device) ∧
    (∀ (r : Adc.Rtos) (desk : Desk FileTree Adc.Config (Adc.Rtos.Channel OpenFile)),
      let d := Adc.Rtos.driver fileSystem r
      (∀ k, (d.perform k desk).state.device = desk.device) ∧
        (d.device.teardown desk).state.device = desk.device) ∧
    ∀ root : Path, Function.Injective (Resource.path root) ∧
      ∀ (r r' : Resource) (place : Place), r ≠ r' → r.Owns root place →
        ¬ spelled (r'.path root) <+: place := by
  refine ⟨fun entries ordinary => FileTree.plain_empty.createAll ordinary, ?_, ?_, ?_, ?_, ?_⟩
  · intro g t plain counter os d
    have about (desk : Desk FileTree Gpio.Config (Gpio.Sysfs.Line OpenFile)) (k : Gpio.Command) :
        (d.errand k).subject? d.device desk = Gpio.Command.line? desk k := by
      cases k <;> rfl
    have tended := Gpio.Sysfs.governs.run d.perform_eq Gpio.Sysfs.works_mind plain counter os
    exact Gpio.Sysfs.governs.framed d.perform_eq Gpio.Sysfs.works_mind about tended
  · intro s t plain counter os d
    have about (desk : Desk FileTree Pwm.Signal Pwm.Sysfs.Channel) (k : Pwm.Command) :
        (d.errand k).subject? d.device desk = Pwm.Command.pin? desk k := by
      cases k <;> rfl
    have tended := Pwm.Sysfs.governs.run d.perform_eq Pwm.Sysfs.works_mind plain counter os
    exact Pwm.Sysfs.governs.framed d.perform_eq Pwm.Sysfs.works_mind about tended
  · exact fun i desk => ⟨i.idle.perform desk, i.idle.teardown desk⟩
  · exact fun r desk => ⟨r.idle.perform desk, r.idle.teardown desk⟩
  · exact fun root => ⟨Resource.path_injective root, fun _ _ _ other own => own.apart other⟩

def twoLines : FileTree where
  nodes := ⟨[(["class"], .directory), (["class", "gpio"], .directory),
    (["class", "gpio", "gpio4"], .directory), (["class", "gpio", "gpio4", "direction"], .file 0),
    (["class", "gpio", "gpio4", "edge"], .file 1), (["class", "gpio", "gpio4", "value"], .file 2),
    (["class", "gpio", "gpio5"], .directory), (["class", "gpio", "gpio5", "value"], .file 3)]⟩
  contents := ⟨[(0, Text.bytesOf "in"), (1, Text.bytesOf "none"), (2, Text.bytesOf "1\n"),
    (3, Text.bytesOf "1\n")]⟩
  nextNumber := 4

private theorem twoLines_plain : twoLines.Plain :=
  FileTree.plain_of_pairs (by decide) (by decide) (by decide)

private theorem twoLines_regular : Gpio.Sysfs.Regular ⟨⟨""⟩⟩ 4 twoLines ⟨0, 1, 2⟩ := by
  have above : twoLines.Grounded ["class"] := twoLines.grounded_nil.concat rfl
  have inside : twoLines.Grounded ["class", "gpio"] := above.concat rfl
  exact Gpio.Sysfs.fourth_regular (inside.concat rfl) rfl rfl rfl

/-- Line 4 is requested as an output and driven low. Its direction and its value change, and the value of
line 5 does not. -/
theorem neighbour_stays_high :
    let d := Gpio.Sysfs.driver fileSystem ⟨⟨""⟩⟩
    let asked := (d.perform (.request (Gpio.Config.output 4 true)) (Desk.vacant twoLines 0)).state
    let driven := (d.perform (.drive ⟨0⟩ false) asked).state
    asked.device.bytes 0 = Text.bytesOf "high" ∧ driven.device.bytes 2 = Text.bytesOf "0\n" ∧
      driven.device.node? ["class", "gpio", "gpio5", "value"] = some (.file 3) ∧
      driven.device.bytes 3 = Text.bytesOf "1\n" := by
  intro d asked driven
  obtain ⟨-, frames, -, -, -, parts⟩ := drivers_touch_only_their_files
  obtain ⟨-, apart⟩ := parts ⟨""⟩
  have top : spelled ⟨""⟩ = [] := by
    rw [FileTree.spelled_eq]
    decide +kernel
  have fifth : spelled (Resource.path ⟨""⟩ (.line 5)) = ["class", "gpio", "gpio5"] := by
    rw [Resource.spelled_path, top]
    decide +kernel
  have elsewhere {subject? : Option UInt32} (fourth : subject? = some 4) :
      ¬ ∃ key, subject? = some key ∧ Gpio.Sysfs.Owns ⟨⟨""⟩⟩ key ["class", "gpio", "gpio5", "value"] := by
    rintro ⟨key, about, own⟩
    obtain rfl := Option.some.inj (fourth.symm.trans about)
    refine apart (.line 4) (.line 5) _ (by decide) own ?_
    rw [fifth]
    exact ⟨["value"], rfl⟩
  let c := Gpio.Config.output 4 true
  have regular : Gpio.Sysfs.Regular ⟨⟨""⟩⟩ c.line (Desk.vacant twoLines 0 : Desk FileTree Gpio.Config
      (Gpio.Sysfs.Line OpenFile)).device ⟨0, 1, 2⟩ := twoLines_regular
  have left : asked.device = Gpio.Sysfs.prepared c ⟨0, 1, 2⟩ twoLines :=
    congrArg Desk.device (Gpio.Sysfs.request_free_regular regular rfl).2
  have opened := Gpio.Sysfs.hasOpen_of_request regular rfl
  have live : asked.leases.keyOf? ⟨0⟩ = some 4 := opened.keyOf?_eq
  have value : asked.device.bytes 2 = Text.bytesOf "1\n" := by
    rw [left, Gpio.Sysfs.prepared_bytes, if_neg (by decide), if_neg (by decide)]
    rfl
  have run : Action.runAll (Occurrence.perform d.perform Interference.change) [.command (.request c)]
      (Desk.vacant twoLines 0) = asked := (Occurrence.perform_command _ _).2
  have first := (frames ⟨⟨""⟩⟩ twoLines twoLines_plain 0 []).command (.request c)
  have second := (frames ⟨⟨""⟩⟩ twoLines twoLines_plain 0 [.command (.request c)]).command (.drive ⟨0⟩ false)
  rw [run] at second
  obtain ⟨node, bytes⟩ := first.same _ (elsewhere rfl)
  obtain ⟨node', bytes'⟩ := second.same _ (elsewhere live)
  refine ⟨?_, ?_, node'.trans node, (bytes' 3 node).trans (bytes 3 rfl)⟩
  · rw [left, Gpio.Sysfs.prepared_bytes, if_neg (by decide), if_pos rfl]
    rfl
  · have drives : driven.device = _ := (Gpio.Sysfs.perform_drive opened rfl false).2.1
    rw [drives, FileTree.bytes_setBytes, if_pos rfl, value]
    rfl

end Peripherals

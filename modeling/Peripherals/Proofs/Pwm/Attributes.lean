import Peripherals.Proofs.Files.Shelf
import Peripherals.Proofs.Files.Traced
import Peripherals.Proofs.Pwm.Ports
import Peripherals.Proofs.Pwm.Turn
/-!
The attributes of channels as files. Main statements: each attribute of each channel has a path of its
own, and where the attributes of a channel are regular files, what is read from them is what stands in
them.
-/

set_option autoImplicit false

namespace Peripherals

open Peripherals.Action (Leads)

variable {φ F : Type}

/-- The bytes are a text that is this value, but for blanks around it. -/
def Spells (bytes : List UInt8) (value : String) : Prop :=
  (Text.Utf8.decode? bytes).map Text.trim = some value.toList

theorem spells_bytesOf {value : String} (plain : ∀ c ∈ value.toList, Text.isPlain c = true) :
    Spells (Text.bytesOf value) value := by
  rw [Spells, Text.bytesOf, Text.Utf8.decode?_encode, Option.map_some, Text.trim_of_plain plain]

private theorem spells_of_valueOf {path : Path} {bytes : List UInt8} {value : String}
    (read : Attribute.valueOf path bytes = .ok value) : Spells bytes value := by
  unfold Attribute.valueOf at read
  split at read
  · cases read
  · next text decoded =>
    dsimp only at read
    split at read
    · cases read
    · rw [← Except.ok.inj read, Spells, decoded, Option.map_some, String.toList_ofList]

/-- All bytes of a file that is opened, taken back to its start and read to its end. -/
def FileSystem.readThrough (fs : FileSystem φ F) (path : Path) : Action IoError φ (List UInt8) := do
  let file ← fs.openRead path
  let (answer, _) ← Action.beside file (fs.rewind >>= fun _ => fs.readAll)
  Action.ofExcept answer

/-- The value that is loaded from an attribute is spelled by what is read from it. -/
theorem Attribute.load_ok {fs : FileSystem φ F} {path : Path} {t : φ} {value : String}
    (loaded : (Attribute.load fs path t).answer = .ok value) :
    ∃ bytes, (fs.readThrough path t).answer = .ok bytes ∧ Spells bytes value := by
  have steps : (Attribute.load fs path t).answer = match (fs.openRead path t).answer with
      | .error e => .error (.ofIo path e)
      | .ok file => (Attribute.read fs ((fs.openRead path t).state, ⟨path, file⟩)).answer := by
    simp only [Attribute.load, Attribute.openRead, Action.bind_apply, Action.mapError]
    cases (fs.openRead path t).answer <;> rfl
  have through : (fs.readThrough path t).answer = match (fs.openRead path t).answer with
      | .error e => .error e
      | .ok file => ((fs.rewind >>= fun _ => fs.readAll) ((fs.openRead path t).state, file)).answer := by
    simp only [FileSystem.readThrough, Action.bind_apply]
    cases (fs.openRead path t).answer <;> rfl
  rw [steps] at loaded
  rw [through]
  cases opened : (fs.openRead path t).answer with
  | error e =>
    rw [opened] at loaded
    cases loaded
  | ok file =>
    rw [opened] at loaded
    simp only [Attribute.read, Attribute.onFile, Action.bind_apply, Action.mapError,
      Action.zoom_apply, Action.get_apply] at loaded ⊢
    generalize (fs.openRead path t).state = t' at loaded ⊢
    cases rewound : (fs.rewind (t', file)).answer with
    | error e =>
      simp only [Attribute.fileLens, rewound] at loaded
      cases loaded
    | ok u =>
      simp only [Attribute.fileLens, rewound] at loaded
      cases drained : (fs.readAll (fs.rewind (t', file)).state).answer with
      | error e =>
        simp only [Except.mapError, drained] at loaded
        cases loaded
      | ok bytes =>
        simp only [Except.mapError, drained] at loaded
        exact ⟨bytes, rfl, spells_of_valueOf loaded⟩

theorem Attribute.load_keeps {fs : FileSystem φ F} {P : φ → Prop} (path : Path)
    (opened : ∀ t, P t → P (fs.openRead path t).state)
    (rewound : ∀ q, P q.1 → P (fs.rewind q).state.1)
    (drained : ∀ q, P q.1 → P (fs.readAll q).state.1) :
    Leads P (Attribute.load fs path) (fun _ => P) P := by
  have on_file {α : Type} {work : Action IoError (φ × F) α} (h : ∀ q, P q.1 → P (work q).state.1) :
      Leads (fun q => P q.1) (Attribute.onFile work) (fun _ q => P q.1) fun q => P q.1 :=
    .of_keeps fun q kept => h (q.1, q.2.file) kept
  have reads : Leads (fun q => P q.1) (Attribute.read fs) (fun _ q => P q.1) fun q => P q.1 :=
    (on_file rewound).bind fun _ => (on_file drained).bind fun _ =>
      Leads.bind (Q := fun _ q => P q.1) (.of_keeps fun _ kept => kept) fun _ =>
        .of_keeps fun _ kept => kept
  have opens : Leads P (Attribute.openRead fs path) (fun _ => P) P := by
    refine Leads.bind (Q := fun _ => P) (.of_keeps ?_) fun _ => .pure fun _ kept => kept
    exact opened
  refine opens.bind fun a => Leads.bind (Q := fun _ => P) (.of_keeps ?_) fun _ =>
    .of_keeps fun _ kept => kept
  exact fun t kept => reads.keeps (s := (t, a)) kept

namespace Pwm

/-- The attributes of a channel. -/
inductive Part where
  | enable | period | duty | polarity
  deriving DecidableEq

def Part.name : Part → String
  | enable => "enable"
  | period => "period"
  | duty => "duty_cycle"
  | polarity => "polarity"

theorem Part.name_injective {part part' : Part} (same : part.name = part'.name) : part = part' := by
  cases part <;> cases part' <;> first | rfl | (simp [Part.name] at same)

namespace Sysfs

variable (s : Sysfs)

def partPath (pin : UInt32) (part : Part) : Path :=
  (s.channelDir pin).join part.name

private theorem partPath_text (pin : UInt32) (part : Part) :
    (s.partPath pin part).text.toList = s.chipDir.text.toList ++ ('/' :: "pwm".toList) ++
      ((Text.number pin.toNat).toList ++ '/' :: part.name.toList) := by
  obtain ⟨⟨front, last, ending, other⟩, numbered⟩ := Path.numbered_text "pwm" pin
  have solid : (s.channelDir pin).Solid := Path.solid_join _ _ ending other
  rw [partPath, solid.join_text, channelDir, s.chipDir_solid.join_text, numbered]
  simp

theorem partPath_injective {pin pin' : UInt32} {part part' : Part}
    (same : s.partPath pin part = s.partPath pin' part') : pin = pin' ∧ part = part' := by
  have texts := congrArg (fun p : Path => p.text.toList) same
  simp only [partPath_text] at texts
  have tails := List.append_cancel_left texts
  have numeral (n : Nat) (rest : List Char) :
      ((Text.number n).toList ++ '/' :: rest).takeWhile Text.isDigit = (Text.number n).toList := by
    rw [List.takeWhile_append_of_pos fun c member => Text.isDigit_of_mem_number c member]
    exact List.append_nil _
  have numerals := congrArg (List.takeWhile Text.isDigit) tails
  rw [numeral, numeral] at numerals
  have pins : pin = pin' :=
    UInt32.toNat_inj.mp (Text.number_injective (String.toList_injective numerals))
  subst pins
  have names := (List.cons.inj (List.append_cancel_left tails)).2
  exact ⟨rfl, Part.name_injective (String.toList_injective names)⟩

/-- What the driver writes to that is no attribute of the channel: the ports of the chip, and the
attributes of its other channels. -/
def Elsewhere (pin : UInt32) (path : Path) : Prop :=
  s.ports.IsPort path ∨ ∃ other part, other ≠ pin ∧ path = s.partPath other part

variable {s}

theorem Elsewhere.ne {pin : UInt32} {path : Path} (elsewhere : s.Elsewhere pin path) (part : Part) :
    path ≠ s.partPath pin part := by
  rintro rfl
  rcases elsewhere with port | ⟨other, part', differs, same⟩
  · exact s.attribute_not_isPort pin part.name port
  · exact differs (s.partPath_injective same).1.symm

def verbPart : Verb → Part
  | .setRunning _ => .enable
  | .setPeriod _ => .period
  | .setDuty _ => .duty
  | .setPolarity _ => .polarity

def verbValue : Verb → String
  | .setRunning on => switchText on
  | .setPeriod period => Text.number period.toNat
  | .setDuty duty => Text.number duty.toNat
  | .setPolarity polarity => polarity.name

private theorem calls_eq_set (fs : FileSystem φ F) (verb : Verb) :
    (driver fs s).calls verb = set fs (verbPart verb).name (verbValue verb) := by
  cases verb <;> rfl

theorem calls_apply (fs : FileSystem φ F) (verb : Verb) (t : φ) {channel : Channel} {key : UInt32}
    (dir : channel.dir = s.channelDir key) :
    (driver fs s).calls verb (t, channel) =
      ⟨(Attribute.store fs (s.partPath key (verbPart verb)) (verbValue verb) t).answer,
        (Attribute.store fs (s.partPath key (verbPart verb)) (verbValue verb) t).events,
        ((Attribute.store fs (s.partPath key (verbPart verb)) (verbValue verb) t).state, channel)⟩ := by
  rw [calls_eq_set, partPath, ← dir]
  rfl

/-- The attributes of a channel are regular files of their own, and `content` is what stands in them.
A write to one stores all or nothing, and nothing else that the driver does changes them. -/
structure Regular (fs : FileSystem φ F) (s : Sysfs) (pin : UInt32)
    (content : φ → Part → List UInt8) : Prop where
  stored : ∀ part bytes t, (fs.writeFile (s.partPath pin part) bytes t).answer = .ok () →
    ∀ other, content (fs.writeFile (s.partPath pin part) bytes t).state other =
      if other = part then bytes else content t other
  failed : ∀ part bytes t e, (fs.writeFile (s.partPath pin part) bytes t).answer = .error e →
    content (fs.writeFile (s.partPath pin part) bytes t).state = content t
  elsewhere : ∀ path bytes t, s.Elsewhere pin path →
    content (fs.writeFile path bytes t).state = content t
  located : ∀ path t, content (fs.locate path t).state = content t
  opened : ∀ path t, content (fs.openRead path t).state = content t
  rewound : ∀ q, content (fs.rewind q).state.1 = content q.1
  drained : ∀ q, content (fs.readAll q).state.1 = content q.1
  read : ∀ part t bytes, (fs.readThrough (s.partPath pin part) t).answer = .ok bytes →
    bytes = content t part

private theorem eq_of_readThrough {path : Path} {t : Shelf} {bytes : List UInt8}
    (read : (Shelf.fileSystem.readThrough path t).answer = .ok bytes) : bytes = t.bytes path := by
  have opens : Shelf.fileSystem.openRead path t =
      if t.files.contains path then ⟨.ok (path, 0), [], t⟩
      else ⟨.error (.system IoError.noEntry), [], t⟩ := rfl
  rw [FileSystem.readThrough, Action.bind_apply, opens] at read
  by_cases found : t.files.contains path = true
  · rw [if_pos found] at read
    exact (Except.ok.inj read).symm
  · rw [if_neg found] at read
    cases read

/-- The attributes of a channel on a shelf are regular files. -/
theorem shelf_regular (s : Sysfs) (pin : UInt32) :
    Regular Shelf.fileSystem s pin fun t part => t.bytes (s.partPath pin part) where
  stored part bytes t written other := by
    have same : s.partPath pin other = s.partPath pin part ↔ other = part :=
      ⟨fun paths => (s.partPath_injective paths).2, congrArg (s.partPath pin)⟩
    exact (Shelf.bytes_of_written written _).trans (if_congr same rfl rfl)
  failed part bytes t e failed := funext fun other => Shelf.bytes_of_unwritten failed _
  elsewhere path bytes t elsewhere :=
    funext fun part => Shelf.bytes_of_elsewhere bytes t (elsewhere.ne part)
  located path t := by
    rw [show (Shelf.fileSystem.locate path t).state = t from Shelf.locate_state path t]
  opened path t := by
    rw [show (Shelf.fileSystem.openRead path t).state = t from Shelf.openFile_state path t]
  rewound q := rfl
  drained q := rfl
  read part t bytes through := eq_of_readThrough through

end Sysfs

end Pwm

end Peripherals

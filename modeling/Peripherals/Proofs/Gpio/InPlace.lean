import Peripherals.Proofs.Gpio.Requests
/-!
Lines that are driven through one handle. Main statement: only the first byte of the value is written, so
that a level can be read back just if what is behind it is blank.
-/

set_option autoImplicit false

namespace Peripherals.Gpio.Sysfs

open FileTree (OpenFile fileSystem)
open Text (AllBlank Frames)
open Text.Utf8 (encode)

/-! ### A digit in front -/

/-- Bytes that are a text of blanks, or none at all. -/
def Blank (bytes : List UInt8) : Prop :=
  ∃ text, bytes = encode text ∧ AllBlank text

def symbol (level : Bool) : Char :=
  if level then '1' else '0'

private theorem encode_symbol (level : Bool) (text : List Char) :
    encode (symbol level :: text) = digit level :: encode text := by
  cases level <;> rfl

private theorem isBlank_symbol (level : Bool) : Text.isBlank (symbol level) = false := by
  cases level <;> decide

private theorem symbol_tight (level : Bool) : Text.Tight [symbol level] where
  front c head := by
    obtain rfl := Option.some.inj head
    exact isBlank_symbol level
  back c last := by
    obtain rfl := Option.some.inj last
    exact isBlank_symbol level

private theorem level_iff {value : List Char} {level : Bool} : Level value level ↔ value =
    [symbol level] := by
  constructor
  · intro spells
    cases spells with
    | low | high => rfl
  · rintro rfl
    cases level with
    | false => exact .low
    | true => exact .high

private theorem encode_of_digit {level : Bool} {bytes : List UInt8} {text : List Char}
    (same : digit level :: bytes = encode text) :
    ∃ rest, text = symbol level :: rest ∧ bytes = encode rest := by
  have lead : (digit level).toNat < 0x80 := by cases level <;> decide
  have code : (digit level).toNat = (symbol level).toNat := by cases level <;> rfl
  have read := Text.Utf8.decode?_eq_some_iff.mpr same
  rw [Text.Utf8.decode?_one bytes lead code] at read
  obtain ⟨rest, later, rfl⟩ := Option.map_eq_some_iff.mp read
  exact ⟨rest, rfl, Text.Utf8.decode?_eq_some_iff.mp later⟩

private theorem blank_of_frames {level other : Bool} {rest : List Char}
    (frames : Frames (symbol level :: rest) [symbol other]) : level = other ∧ AllBlank rest := by
  obtain ⟨-, before, after, blank, blank', cut⟩ := frames
  cases before with
  | nil =>
    obtain ⟨same, rfl⟩ := List.cons.inj cut
    refine ⟨?_, blank'⟩
    have injective : ∀ a b : Bool, symbol a = symbol b → a = b := by decide
    exact injective level other same
  | cons c before =>
    obtain ⟨rfl, -⟩ := List.cons.inj cut
    have contra := blank (symbol level) List.mem_cons_self
    rw [isBlank_symbol] at contra
    cases contra

variable {path : Path} {level : Bool} {bytes : List UInt8}

private theorem verdict_of_blank (blank : Blank bytes) : verdict path
    (digit level :: bytes) = .ok level := by
  obtain ⟨rest, rfl, blank⟩ := blank
  have frames : Frames (symbol level :: rest) [symbol level] :=
    ⟨symbol_tight level, [], rest, (fun _ none => nomatch none), blank, rfl⟩
  refine (levelOf_parses path).reading_iff.mp ?_
  exact .value (encode_symbol level rest).symm frames (level_iff.mpr rfl)

private theorem verdict_of_unblank (path : Path) (level : Bool) (unblank : ¬ Blank bytes) :
    ∃ f, verdict path (digit level :: bytes) = .error f ∧
      (f = .io path IoError.notText ∨ ∃ raw, f = .unreadable path raw) := by
  have reading : Attribute.Reading Level path (digit level :: bytes)
      (verdict path (digit level :: bytes)) := (levelOf_parses path).reading _
  generalize verdict path (digit level :: bytes) = answer at reading
  cases reading with
  | @value text value other same frames spelled =>
    obtain ⟨rest, rfl, rfl⟩ := encode_of_digit same
    rw [level_iff.mp spelled] at frames
    exact absurd ⟨rest, rfl, (blank_of_frames frames).2⟩ unblank
  | blank same all =>
    obtain ⟨rest, rfl, -⟩ := encode_of_digit same
    have contra := all (symbol level) List.mem_cons_self
    rw [isBlank_symbol] at contra
    cases contra
  | notText notText => exact ⟨_, rfl, .inl rfl⟩
  | other => exact ⟨_, rfl, .inr ⟨_, rfl⟩⟩

private theorem blank_newline : Blank [] ∧ Blank [10] := by
  refine ⟨⟨[], rfl, fun _ none => nomatch none⟩, ['\n'], rfl, fun c member => ?_⟩
  obtain rfl := List.mem_singleton.mp member
  rfl

/-! ### Through one handle -/

/-- What is done through a handle: the line is driven to a level, or its level is read. -/
inductive Access where
  | drive (level : Bool)
  | sense
  deriving DecidableEq

namespace Access

def command (h : Handle) : Access → Command
  | .drive level => .drive h level
  | .sense => .level h

def update (last : Option Bool) : Access → Option Bool
  | .drive level => some level
  | .sense => last

def last? (accesses : List Access) : Option Bool :=
  accesses.foldl update none

end Access

variable {g : Sysfs} {c : Config} {n : Nat} {d d' : Desk FileTree Config (Line OpenFile)} {h : Handle}
  {key : UInt32}

/-- What a line that was open at one desk has come to at a later one: its value has the last level in
the place of its first byte, and no other file has changed. -/
structure Driven (d : Desk FileTree Config (Line OpenFile)) (h : Handle) (key : UInt32) (c : Config)
    (path : Path) (n : Nat) (last : Option Bool) (d' : Desk FileTree Config (Line OpenFile)) : Prop where
  opened : HasOpen d' h key c path n
  undriven : last = none → d'.device.bytes n = d.device.bytes n
  driven : ∀ level, last = some level → d'.device.bytes n = digit level :: (d.device.bytes n).drop 1
  nodes : d'.device.nodes = d.device.nodes
  others : ∀ m, m ≠ n → d'.device.bytes m = d.device.bytes m

private theorem Driven.start (opened : HasOpen d h key c path n) : Driven d h key c path n none d where
  opened := opened
  undriven _ := rfl
  driven _ contra := nomatch contra
  nodes := rfl
  others _ _ := rfl

private theorem Driven.rest {last : Option Bool} (driven : Driven d h key c path n last d') :
    (d'.device.bytes n).drop 1 = (d.device.bytes n).drop 1 := by
  cases last with
  | none => rw [driven.undriven rfl]
  | some level =>
    rw [driven.driven level rfl]
    rfl

private theorem Driven.access {last : Option Bool} (driven : Driven d h key c path n last d')
    (output : c.direction = .output) (a : Access) :
    Driven d h key c path n (a.update last) ((driver fileSystem g).perform (a.command h) d').state := by
  cases a with
  | sense =>
    obtain ⟨-, device, opened⟩ := perform_level (g := g) driven.opened
    change Driven d h key c path n last ((driver fileSystem g).perform (.level h) d').state
    constructor
    · exact opened
    all_goals rw [device]
    · exact driven.undriven
    · exact driven.driven
    · exact driven.nodes
    · exact driven.others
  | drive level =>
    obtain ⟨-, device, opened⟩ := perform_drive (g := g) driven.opened output level
    change Driven d h key c path n (some level) ((driver fileSystem g).perform (.drive h level) d').state
    refine ⟨opened, (fun contra => nomatch contra), fun level' same => ?_, ?_, fun m other => ?_⟩
    all_goals rw [device]
    · obtain rfl := Option.some.inj same
      rw [FileTree.bytes_setBytes, if_pos rfl, driven.rest]
    · exact driven.nodes
    · rw [FileTree.bytes_setBytes, if_neg other]
      exact driven.others m other

private theorem Driven.run {last : Option Bool} (driven : Driven d h key c path n last d')
    (output : c.direction = .output) (accesses : List Access) :
    Driven d h key c path n (accesses.foldl Access.update last)
      (Action.runAll (driver fileSystem g).perform (accesses.map (Access.command h)) d') := by
  induction accesses generalizing last d' with
  | nil => exact driven
  | cons a rest ih => exact ih (driven.access output a)

/-- A request for an output whose attributes are regular files opens its value, and through that handle
the line is always driven with success. After any number of levels were driven and read, the value is
the digit of the last one and all that was behind the first byte at the start; no other file has
changed. The level is read back if what is behind the first byte is blank, and a busy fault is read if
it is not: one digit that may have an end of line behind it is always read back. -/
theorem driven_level_read_back (g : Sysfs) (c : Config) (output : c.direction = .output) :
    (∀ (d : Desk FileTree Config (Line OpenFile)) (files : Files), g.Regular c.line d.device files →
      d.leases.containsKey c.line = false →
      ∃ h, ((driver fileSystem g).perform (.request c) d).answer = .ok (.granted h) ∧
        HasOpen ((driver fileSystem g).perform (.request c) d).state h c.line c
          ((g.lineDir c.line).join "value") files.value) ∧
    ∀ (d : Desk FileTree Config (Line OpenFile)) (h : Handle) (key : UInt32) (path : Path) (n : Nat),
      HasOpen d h key c path n → ∀ accesses : List Access,
      let content := d.device.bytes n
      let d' := Action.runAll (driver fileSystem g).perform (accesses.map (Access.command h)) d
      let read := ((driver fileSystem g).perform (.level h) d').answer
      (∀ level, ((driver fileSystem g).perform (.drive h level) d').answer = .ok .done) ∧
      (d'.device.bytes n).drop 1 = content.drop 1 ∧
      d'.device.nodes = d.device.nodes ∧ (∀ m, m ≠ n → d'.device.bytes m = d.device.bytes m) ∧
      ∀ level, Access.last? accesses = some level →
        d'.device.bytes n = digit level :: content.drop 1 ∧
        (read = .ok (.level level) ↔ Blank (content.drop 1)) ∧
        (¬ Blank (content.drop 1) → ∃ f, read = .error f ∧ f.status = .busy ∧
          (f = .io path IoError.notText ∨ ∃ raw, f = .unreadable path raw)) ∧
        ∀ b, content = [b] ∨ content = [b, 10] → read = .ok (.level level) := by
  constructor
  · intro d files regular free
    exact ⟨_, (request_free_regular regular free).1, hasOpen_of_request regular free⟩
  · intro d h key path n opened accesses content d' read
    have driven : Driven d h key c path n (Access.last? accesses) d' :=
      (Driven.start opened).run output accesses
    refine ⟨fun level => (perform_drive driven.opened output level).1, driven.rest, driven.nodes,
      driven.others, fun level last => ?_⟩
    have written : d'.device.bytes n = digit level :: content.drop 1 := driven.driven level last
    have reads : read = (verdict path (digit level :: content.drop 1)).map .level := by
      rw [← written]
      exact (perform_level driven.opened).1
    have back (blank : Blank (content.drop 1)) : read = .ok (.level level) := by
      rw [reads, verdict_of_blank blank]
      rfl
    have lost (unblank : ¬ Blank (content.drop 1)) : ∃ f, read = .error f ∧ f.status = .busy ∧
        (f = .io path IoError.notText ∨ ∃ raw, f = .unreadable path raw) := by
      obtain ⟨f, fails, cause⟩ := verdict_of_unblank path level unblank
      rw [reads, fails]
      refine ⟨f, rfl, ?_, cause⟩
      rcases cause with rfl | ⟨raw, rfl⟩
      · rfl
      · rfl
    refine ⟨written, ⟨fun reads => ?_, back⟩, lost, ?_⟩
    · by_contra unblank
      obtain ⟨f, fails, -⟩ := lost unblank
      rw [reads] at fails
      cases fails
    · intro b digits
      refine back ?_
      rcases digits with alone | ended
      · rw [alone]
        exact blank_newline.1
      · rw [ended]
        exact blank_newline.2

/-- Line 4 has a blank, a digit and an end of line in its value. It is driven low and then high with a
read in between: the first byte is a one, but what is read is 11, no level. -/
theorem driven_over_blank :
    let g : Sysfs := ⟨⟨""⟩⟩
    let t := oneLine (Text.bytesOf "in") (Text.bytesOf "none") (Text.bytesOf " 1\n")
    let perform := (driver fileSystem g).perform
    let d := (perform (.request (Config.output 4 false)) (Desk.vacant t 0)).state
    ∃ h, let d' := Action.runAll perform [.drive h false, .level h, .drive h true] d
      d'.device.bytes 2 = Text.bytesOf "11\n" ∧
      ∃ f, (perform (.level h) d').answer = .error f ∧ f.status = .busy := by
  intro g t perform d
  obtain ⟨opens, reads⟩ := driven_level_read_back g (Config.output 4 false) rfl
  have regular : g.Regular 4 t ⟨0, 1, 2⟩ := oneLine_regular _ _ _
  obtain ⟨h, granted, opened⟩ := opens (Desk.vacant t 0) ⟨0, 1, 2⟩ regular rfl
  have content : d.device.bytes 2 = Text.bytesOf " 1\n" := by
    have left : d.device = prepared (Config.output 4 false) ⟨0, 1, 2⟩ t :=
      congrArg Desk.device (request_free_regular regular rfl).2
    rw [left, prepared_bytes, if_neg (by decide), if_neg (by decide)]
    rfl
  have unblank : ¬ Blank ((Text.bytesOf " 1\n").drop 1) := by
    rintro ⟨text, same, blank⟩
    have digits : digit true :: [10] = encode text := same
    obtain ⟨rest, rfl, -⟩ := encode_of_digit digits
    exact absurd (blank '1' List.mem_cons_self) (by decide)
  obtain ⟨-, -, -, -, driven⟩ := reads d h 4 _ 2 opened [.drive false, .sense, .drive true]
  obtain ⟨written, -, lost, -⟩ := driven true rfl
  rw [content] at written lost
  obtain ⟨f, fails, busy, -⟩ := lost unblank
  exact ⟨h, written, f, fails, busy⟩

end Peripherals.Gpio.Sysfs

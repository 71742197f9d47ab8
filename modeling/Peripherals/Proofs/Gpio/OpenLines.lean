import Peripherals.Proofs.Desk.Lasting
import Peripherals.Proofs.Files.Exporting
import Peripherals.Proofs.Files.Values
/-!
Lines whose value is open on a file of a tree. Main statements: a line that is handed out stays open on
its file, a level is read from what the file holds then, and a level that is driven goes over the first
byte of the file.
-/

set_option autoImplicit false

namespace Peripherals.Gpio.Sysfs

open FileTree (OpenFile fileSystem)

variable {g : Sysfs} {c : Config} {path : Path} {n : Nat}

/-- A line that was asked for like this, with its value open under a path on a file. -/
structure OpenOn (c : Config) (path : Path) (n : Nat) (lease : Lease Config (Line OpenFile)) : Prop where
  settings : lease.settings = c
  value : ∃ position, lease.channel.value = ⟨path, .file n position⟩

def verdict (path : Path) (content : List UInt8) : Except Fault Bool :=
  Attribute.valueOf path content >>= levelOf path

def digit (level : Bool) : UInt8 :=
  if level then 49 else 48

/-! ### Work on an open line -/

private theorem read_open {t : FileTree} {line : Line OpenFile} {position : Nat}
    (value : line.value = ⟨path, .file n position⟩) :
    ((driver fileSystem g).read (t, line)).answer = verdict path (t.bytes n) ∧
      ((driver fileSystem g).read (t, line)).state =
        (t, { line with value := ⟨path, .file n (t.bytes n).length⟩ }) := by
  have reads := Attribute.parse_file levelOf t path n position
  rw [← value] at reads
  refine ⟨congrArg Outcome.answer reads, ?_⟩
  exact congrArg (fun x => valueLens.set x.state (t, line)) reads

private theorem bytesOf_level (level : Bool) : Text.bytesOf (if level then "1" else "0") =
    [digit level] := by
  cases level <;> decide

private theorem overlay_digit (old : List UInt8) (d : UInt8) : FileTree.overlay old 0
    [d] = d :: old.drop 1 := by
  simp [FileTree.overlay]

private theorem write_open {t : FileTree} {line : Line OpenFile} {position : Nat}
    (value : line.value = ⟨path, .file n position⟩) (level : Bool) :
    ((driver fileSystem g).write level (t, line)).answer = .ok () ∧
      ∃ position', ((driver fileSystem g).write level (t, line)).state =
        (t.setBytes n (digit level :: (t.bytes n).drop 1),
          { line with value := ⟨path, .file n position'⟩ }) := by
  have writes := Attribute.write_file t path n position (if level then "1" else "0")
  rw [bytesOf_level, overlay_digit] at writes
  change (Attribute.write fileSystem _ (t, line.value)).answer = _ ∧
    ∃ position', valueLens.set (Attribute.write fileSystem _ (t, line.value)).state (t, line) = _
  rw [value, writes]
  exact ⟨rfl, _, rfl⟩

private theorem close_value (p : FileTree × Line OpenFile) :
    (close fileSystem g p).state.2.value = p.2.value := by
  rw [close_eq, Exporting.close_apply]
  split
  · rw [Action.bind_apply]
    split
    · rfl
    · rfl
  · rfl

private theorem driveLine_open {t : FileTree} {lease : Lease Config (Line OpenFile)}
    (opened : OpenOn c path n lease) (output : c.direction = .output) (level : Bool) :
    ((driver fileSystem g).driveLine level (t, lease)).answer = .ok () ∧
      ((driver fileSystem g).driveLine level (t, lease)).state.1 =
        t.setBytes n (digit level :: (t.bytes n).drop 1) ∧
      OpenOn c path n ((driver fileSystem g).driveLine level (t, lease)).state.2 := by
  obtain ⟨rfl, position, value⟩ := opened
  have drives : (driver fileSystem g).driveLine level (t, lease) =
      Action.zoom Lease.channelLens ((driver fileSystem g).write level) (t, lease) := by
    simp only [Driver.driveLine, Action.bind_apply, Action.get_apply, if_pos output]
    rfl
  obtain ⟨answer, position', state⟩ := write_open (g := g) (t := t) value level
  rw [drives, Action.zoom_apply]
  refine ⟨answer, ?_, ?_, position', ?_⟩
  · exact congrArg Prod.fst state
  · rfl
  · exact congrArg (fun p => p.2.value) state

private theorem level_open {t : FileTree} {lease : Lease Config (Line OpenFile)}
    (opened : OpenOn c path n lease) :
    let x := Action.zoom Lease.channelLens (driver fileSystem g).read (t, lease)
    x.answer = verdict path (t.bytes n) ∧ x.state.1 = t ∧ OpenOn c path n x.state.2 := by
  obtain ⟨rfl, position, value⟩ := opened
  obtain ⟨answer, state⟩ := read_open (g := g) (t := t) value
  refine ⟨answer, congrArg Prod.fst state, rfl, (t.bytes n).length, ?_⟩
  exact congrArg (fun p => p.2.value) state

/-! ### Open lines of a desk -/

private theorem spares (k : Command) : (driver fileSystem g).device.Spares (OpenOn c path n)
    ((driver fileSystem g).errand k) where
  works h work use t lease opened := by
    cases k with
    | request | release | name | direction | line => cases use
    | level h =>
      cases use
      rw [Action.map_apply]
      exact (level_open opened).2.2
    | drive h level =>
      cases use
      rw [Action.map_apply]
      by_cases output : c.direction = .output
      · exact (driveLine_open opened output level).2.2
      · have refused : ((driver fileSystem g).driveLine level (t, lease)).state = (t, lease) := by
          simp only [Driver.driveLine, Action.bind_apply, Action.get_apply, opened.settings, if_neg output]
          rfl
        rw [refused]
        exact opened
  closes t lease opened := by
    obtain ⟨settings, position, value⟩ := opened
    refine ⟨settings, position, ?_⟩
    exact (close_value (t, lease.channel)).trans value

/-- Whatever is asked of the desk, a line that stays out stays open on its file. -/
theorem lasting_perform {d : Desk FileTree Config (Line OpenFile)} {h : Handle} {key : UInt32}
    (k : Command) (lasting : d.Lasting h key (OpenOn c path n)) :
    ((driver fileSystem g).perform k d).state.Lasting h key (OpenOn c path n) :=
  lasting.perform (driver fileSystem g).perform_eq k (spares k)

section Live

variable {d : Desk FileTree Config (Line OpenFile)} {h : Handle} {key : UInt32}
  {lease : Lease Config (Line OpenFile)}

/-- The handle is live, and its line is open on a file. -/
def HasOpen (d : Desk FileTree Config (Line OpenFile)) (h : Handle) (key : UInt32) (c : Config)
    (path : Path) (n : Nat) : Prop :=
  ∃ lease, d.leases.slots.get? h = some (key, lease) ∧ OpenOn c path n lease

theorem HasOpen.keyOf?_eq (open_ : HasOpen d h key c path n) :
    d.leases.keyOf? h = some key := by
  obtain ⟨lease, slot, -⟩ := open_
  exact HandleTable.keyOf?_eq_some_iff.mpr ⟨lease, slot⟩

private theorem HasOpen.after (live : d.leases.slots.get? h = some (key, lease))
    {p : FileTree × Lease Config (Line OpenFile)} (opened : OpenOn c path n p.2) :
    HasOpen (d.after h p) h key c path n :=
  ⟨p.2, Desk.slots_after live p, opened⟩

theorem perform_level (open_ : HasOpen d h key c path n) :
    let x := (driver fileSystem g).perform (.level h) d
    x.answer = (verdict path (d.device.bytes n)).map .level ∧ x.state.device = d.device ∧
      HasOpen x.state h key c path n := by
  obtain ⟨lease, live, opened⟩ := open_
  obtain ⟨answer, device, opened'⟩ := level_open (g := g) (t := d.device) opened
  intro x
  have same : x = _ := Desk.map_withLease_live live _ Answer.level
  rw [same, answer]
  exact ⟨rfl, device, .after live opened'⟩

theorem perform_drive (open_ : HasOpen d h key c path n) (output : c.direction = .output) (level : Bool) :
    let x := (driver fileSystem g).perform (.drive h level) d
    x.answer = .ok .done ∧
      x.state.device = d.device.setBytes n (digit level :: (d.device.bytes n).drop 1) ∧
      HasOpen x.state h key c path n := by
  obtain ⟨lease, live, opened⟩ := open_
  obtain ⟨answer, device, opened'⟩ := driveLine_open (g := g) (t := d.device) opened output level
  intro x
  have same : x = _ := Desk.map_withLease_live live ((driver fileSystem g).driveLine level) fun _ => Answer.done
  rw [same, answer]
  exact ⟨rfl, device, .after live opened'⟩

end Live

end Peripherals.Gpio.Sysfs

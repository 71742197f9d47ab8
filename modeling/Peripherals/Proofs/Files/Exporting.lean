import Peripherals.Gpio.Sysfs
import Peripherals.Pwm.Sysfs
import Peripherals.Proofs.Action
/-!
Resources that are exported when they are claimed and unexported when they are closed: what the
drivers of lines and of channels have in common. Main statement: both claim and close in the same way.
-/

set_option autoImplicit false

namespace Peripherals

variable {φ σ F α C : Type}

namespace Exporting

def undo (back : Action Fault φ Unit) (report : Fault → Event) : Action Fault φ Unit := do
  match ← Action.attempt back with
  | .ok () => pure ()
  | .error e => Action.note (report e)

/-- Sets up a resource. If that fails, an export that was made for it is undone. -/
def settle (undo : Action Fault φ Unit) (configure : Action Fault φ α) (make : Bool → α → C)
    (exported : Bool) : Action Fault φ C := do
  match ← Action.attempt configure with
  | .ok a => return make exported a
  | .error e =>
    if exported then undo
    Action.fail e

/-- Exports a resource that is not there, and sets it up. -/
def claim (present : Action Fault φ Bool) (out undo : Action Fault φ Unit)
    (configure : Action Fault φ α) (make : Bool → α → C) : Action Fault φ C := do
  let present ← present
  if !present then out
  settle undo configure make (!present)

theorem claim_present {present : Action Fault φ Bool} (out undo : Action Fault φ Unit)
    {configure : Action Fault φ α} (make : Bool → α → C) {s t : φ} {a : α}
    (found : present s = ⟨.ok true, [], s⟩) (sets : configure s = ⟨.ok a, [], t⟩) :
    claim present out undo configure make s = ⟨.ok (make false a), [], t⟩ := by
  have settles : settle undo configure make false s = ⟨.ok (make false a), [], t⟩ := by
    rw [settle, Action.bind_apply, Action.attempt_apply, sets]
    rfl
  rw [claim, Action.bind_apply, found]
  exact settles

/-- Unexports a resource that is marked, and takes the mark off. -/
def close (marked : C → Bool) (back : C → Action Fault φ Unit) (unmark : C → C)
    (report : C → Event) : Action Fault (φ × C) Unit := do
  let c := (← Action.get).2
  if marked c then
    Action.zoom Lens.fst (back c)
    Action.modify fun p => (p.1, unmark p.2)
    Action.note (report c)

theorem close_apply (marked : C → Bool) (back : C → Action Fault φ Unit) (unmark : C → C)
    (report : C → Event) (p : φ × C) :
    close marked back unmark report p = (if marked p.2 = true then (do
      Action.zoom Lens.fst (back p.2)
      Action.modify fun p => (p.1, unmark p.2)
      Action.note (report p.2)) else pure () : Action Fault (φ × C) Unit) p := rfl

end Exporting

section

variable (fs : FileSystem φ F)

theorem Gpio.Sysfs.claim_eq (g : Gpio.Sysfs) (c : Gpio.Config) : Gpio.Sysfs.claim fs g c =
    Exporting.claim (fs.isPresent (g.lineDir c.line)) (Gpio.Sysfs.exportLine fs g c.line)
      (Exporting.undo (Gpio.Sysfs.unexportLine fs g c.line) fun e => ⟨.warn,
        "Failed to unexport GPIO line", [("id", Text.number c.line.toNat), ("error", e.message)]⟩)
      (Gpio.Sysfs.configure fs g c) fun exported value => ⟨c.line, exported, value⟩ := by
  refine bind_congr fun present => ?_
  cases present with
  | true => exact bind_congr fun result => by cases result <;> rfl
  | false => exact bind_congr fun _ => bind_congr fun result => by cases result <;> rfl

/-- Opens the value of a line, for reading only if the line is an input. -/
def Gpio.Sysfs.openValue (g : Gpio.Sysfs) (c : Gpio.Config) : Action Fault φ (Attribute F) :=
  match c.direction with
  | .input => Attribute.openRead fs ((g.lineDir c.line).join "value")
  | .output => Attribute.openUpdate fs ((g.lineDir c.line).join "value")

theorem Gpio.Sysfs.configure_eq (g : Gpio.Sysfs) (c : Gpio.Config) : Gpio.Sysfs.configure fs g c =
    Attribute.store fs ((g.lineDir c.line).join "direction") (Gpio.Sysfs.directionWord c) >>=
      fun _ => (if c.direction = .input ∧ c.edge ≠ .none then
          Attribute.store fs ((g.lineDir c.line).join "edge") c.edge.name else pure ()) >>=
        fun _ => Gpio.Sysfs.openValue fs g c := by
  refine bind_congr fun _ => ?_
  by_cases waits : c.direction = .input ∧ c.edge ≠ .none
  · rw [if_pos waits, if_pos waits]
    rfl
  · rw [if_neg waits, if_neg waits, pure_bind]
    rfl

theorem Gpio.Sysfs.close_eq (g : Gpio.Sysfs) : Gpio.Sysfs.close fs g =
    Exporting.close (fun line => line.exported) (fun line => Gpio.Sysfs.unexportLine fs g line.line)
      (fun line => { line with exported := false })
      fun line => ⟨.debug, "Unexported GPIO line", [("id", Text.number line.line.toNat)]⟩ := rfl

theorem Pwm.Sysfs.claim_eq (s : Pwm.Sysfs) (c : Pwm.Config) : Pwm.Sysfs.claim fs s c =
    Exporting.claim (fs.isPresent (s.channelDir c.pin)) (Pwm.Sysfs.exportChannel fs s c.pin)
      (Exporting.undo (Pwm.Sysfs.unexportChannel fs s c.pin) fun e => ⟨.warn,
        "Failed to unexport PWM channel", [("pin", Text.number c.pin.toNat), ("error", e.message)]⟩)
      (Pwm.Sysfs.configure fs s c) fun exported _ => ⟨c.pin, s.channelDir c.pin, exported⟩ := by
  refine bind_congr fun present => ?_
  cases present with
  | true => exact bind_congr fun result => by cases result <;> rfl
  | false => exact bind_congr fun _ => bind_congr fun result => by cases result <;> rfl

theorem Pwm.Sysfs.close_eq (s : Pwm.Sysfs) : Pwm.Sysfs.close fs s =
    Exporting.close (fun channel => channel.exported)
      (fun channel => Pwm.Sysfs.unexportChannel fs s channel.pin)
      (fun channel => { channel with exported := false })
      fun channel => ⟨.debug, "Unexported PWM channel",
        [("chip", Text.number s.chip.toNat), ("pin", Text.number channel.pin.toNat)]⟩ := rfl

end

/-! ### In a view of the state -/

namespace Exporting

open Peripherals.Action (Mirrors Leads)

variable {f : σ → φ}

theorem undo_mirrors {back : Action Fault σ Unit} {back' : Action Fault φ Unit}
    (h : Mirrors f id back back') (report : Fault → Event) :
    Mirrors f id (undo back report) (undo back' report) := by
  refine Mirrors.bind h.attempt fun result => ?_
  cases result with
  | ok u => exact Mirrors.pure ()
  | error e => exact Mirrors.note _

private theorem settle_mirrors {undo : Action Fault σ Unit} {undo' : Action Fault φ Unit}
    {configure : Action Fault σ α} {configure' : Action Fault φ α} (make : Bool → α → C)
    (hundo : Mirrors f id undo undo') (hconfigure : Mirrors f id configure configure')
    (exported : Bool) :
    Mirrors f id (settle undo configure make exported) (settle undo' configure' make exported) := by
  refine Mirrors.bind hconfigure.attempt fun result => ?_
  cases result with
  | ok a => exact Mirrors.pure _
  | error e =>
    cases exported with
    | true => exact Mirrors.bind hundo fun _ => Mirrors.fail e
    | false => exact Mirrors.fail e

theorem claim_mirrors {present : Action Fault σ Bool} {present' : Action Fault φ Bool}
    {out undo : Action Fault σ Unit} {out' undo' : Action Fault φ Unit}
    {configure : Action Fault σ α} {configure' : Action Fault φ α} (make : Bool → α → C)
    (h : Mirrors f id present present') (hout : Mirrors f id out out')
    (hundo : Mirrors f id undo undo') (hconfigure : Mirrors f id configure configure') :
    Mirrors f id (claim present out undo configure make)
      (claim present' out' undo' configure' make) := by
  refine Mirrors.bind h fun present => ?_
  have settles := settle_mirrors make hundo hconfigure (!present)
  cases present with
  | true => exact settles
  | false => exact Mirrors.bind hout fun _ => settles

theorem close_mirrors (marked : C → Bool) {back : C → Action Fault σ Unit}
    {back' : C → Action Fault φ Unit} (unmark : C → C) (report : C → Event)
    (h : ∀ c, Mirrors f id (back c) (back' c)) :
    Mirrors (Prod.map f id) id (close marked back unmark report)
      (close marked back' unmark report) := by
  refine Mirrors.bind Mirrors.get fun p => ?_
  change Mirrors (Prod.map f id) id (if marked p.2 = true then _ else _)
    (if marked p.2 = true then _ else _)
  split
  · refine Mirrors.bind ((h p.2).zoom (fun _ => rfl) fun _ _ => rfl) fun _ => ?_
    exact Mirrors.bind (Mirrors.modify fun _ => rfl) fun _ => Mirrors.note _
  · exact Mirrors.pure ()

/-! ### Before and after -/

theorem undo_leads {back : Action Fault φ Unit} {P : φ → Prop} (h : Leads P back (fun _ => P) P)
    (report : Fault → Event) : Leads P (undo back report) (fun _ => P) P := by
  refine Leads.bind h.attempt fun result => ?_
  cases result with
  | ok u => exact .pure fun _ kept => kept
  | error e => exact fun _ kept => kept

theorem claim_leads {present : Action Fault φ Bool} {out undo : Action Fault φ Unit}
    {configure : Action Fault φ α} {P : φ → Prop} {Q : α → φ → Prop} (make : Bool → α → C)
    (hpresent : Leads P present (fun _ => P) P) (hout : Leads P out (fun _ => P) P)
    (hundo : Leads P undo (fun _ => P) P) (hconfigure : Leads P configure Q P) :
    Leads P (claim present out undo configure make)
      (fun c s => ∃ exported a, c = make exported a ∧ Q a s) P := by
  have settles (exported : Bool) : Leads P (settle undo configure make exported)
      (fun c s => ∃ exported a, c = make exported a ∧ Q a s) P := by
    refine Leads.bind hconfigure.attempt fun result => ?_
    cases result with
    | ok a => exact .pure fun _ done => ⟨exported, a, rfl, done⟩
    | error e =>
      cases exported with
      | true => exact hundo.bind fun _ => .fail fun _ kept => kept
      | false => exact .fail fun _ kept => kept
  refine hpresent.bind fun present => ?_
  cases present with
  | true => exact settles false
  | false => exact hout.bind fun _ => settles true

/-- A closing keeps what giving the resource back and taking the mark off keep. -/
theorem close_leads {marked : C → Bool} {back : C → Action Fault φ Unit} {unmark : C → C}
    (report : C → Event) {P : φ → Prop} {R : C → Prop}
    (hback : ∀ c, Leads P (back c) (fun _ => P) P) (hunmark : ∀ c, R c → R (unmark c)) :
    Leads (fun p => P p.1 ∧ R p.2) (close marked back unmark report) (fun _ p => P p.1 ∧ R p.2)
      fun p => P p.1 ∧ R p.2 := by
  intro p before
  rw [close_apply]
  by_cases mark : marked p.2 = true
  · rw [if_pos mark]
    have backs : Leads (fun p => P p.1 ∧ R p.2) (Action.zoom Lens.fst (back p.2))
        (fun _ p => P p.1 ∧ R p.2) fun p => P p.1 ∧ R p.2 :=
      .of_keeps fun p kept => ⟨(hback _).keeps kept.1, kept.2⟩
    have unmarks : Leads (ε := Fault) (fun p => P p.1 ∧ R p.2)
        (Action.modify fun p => (p.1, unmark p.2)) (fun _ p => P p.1 ∧ R p.2) fun p => P p.1 ∧ R p.2 :=
      fun p kept => ⟨kept.1, hunmark _ kept.2⟩
    exact (backs.bind fun _ => unmarks.bind fun _ => .of_keeps fun _ kept => kept) p before
  · rw [if_neg mark]
    exact before

end Exporting

end Peripherals

import Peripherals.Adc.Iio
import Peripherals.Adc.Rtos
import Peripherals.Proofs.Desk.Seen
import Peripherals.Proofs.Files.Exporting
/-!
Views of file systems. Main statements: where one file system, in a view of its state, does what
another one does, the drivers of lines, channels and converters over the two do the same.
-/

set_option autoImplicit false

namespace Peripherals

open Peripherals.Action (Mirrors)

variable {σ φ F α : Type}

/-- In the view `f` of the state, a file system does what another one does. -/
structure FileSystem.SeenAs (fs' : FileSystem σ F) (f : σ → φ) (fs : FileSystem φ F) : Prop where
  locate : ∀ p, Mirrors f id (fs'.locate p) (fs.locate p)
  readFile : ∀ p, Mirrors f id (fs'.readFile p) (fs.readFile p)
  writeFile : ∀ p bytes, Mirrors f id (fs'.writeFile p bytes) (fs.writeFile p bytes)
  openRead : ∀ p, Mirrors f id (fs'.openRead p) (fs.openRead p)
  openUpdate : ∀ p, Mirrors f id (fs'.openUpdate p) (fs.openUpdate p)
  rewind : Mirrors (Prod.map f id) id fs'.rewind fs.rewind
  readAll : Mirrors (Prod.map f id) id fs'.readAll fs.readAll
  readUpTo : ∀ limit, Mirrors (Prod.map f id) id (fs'.readUpTo limit) (fs.readUpTo limit)
  overwrite : ∀ bytes, Mirrors (Prod.map f id) id (fs'.overwrite bytes) (fs.overwrite bytes)
  control : ∀ request, Mirrors (Prod.map f id) id (fs'.control request) (fs.control request)

theorem zoom_mirrors {ε β : Type} (l : Lens σ β) (sees : ∀ t s, l.get (l.set t s) = t)
    (x : Action ε β α) : Mirrors l.get id (Action.zoom l x) x := by
  intro s
  rw [Action.zoom_apply]
  cases h : x (l.get s) with
  | mk answer events state =>
    simp only [sees]
    cases answer <;> rfl

private theorem zoom_beside_mirrors {ε β : Type} (x : Action ε (φ × F) α) :
    Mirrors (Prod.map (Prod.fst (α := φ) (β := β)) id) id (Action.zoom Lens.fst.beside x) x :=
  zoom_mirrors (Lens.fst.beside : Lens ((φ × β) × F) (φ × F)) (fun _ _ => rfl) x

theorem FileSystem.zoom_fst_seenAs {β : Type} (fs : FileSystem φ F) :
    (fs.zoom Lens.fst : FileSystem (φ × β) F).SeenAs Prod.fst fs where
  locate _ := zoom_mirrors Lens.fst (fun _ _ => rfl) _
  readFile _ := zoom_mirrors Lens.fst (fun _ _ => rfl) _
  writeFile _ _ := zoom_mirrors Lens.fst (fun _ _ => rfl) _
  openRead _ := zoom_mirrors Lens.fst (fun _ _ => rfl) _
  openUpdate _ := zoom_mirrors Lens.fst (fun _ _ => rfl) _
  rewind := zoom_beside_mirrors _
  readAll := zoom_beside_mirrors _
  readUpTo _ := zoom_beside_mirrors _
  overwrite _ := zoom_beside_mirrors _
  control _ := zoom_beside_mirrors _

namespace FileSystem.SeenAs

variable {f : σ → φ} {fs' : FileSystem σ F} {fs : FileSystem φ F}

private theorem isPresent (m : fs'.SeenAs f fs) (p : Path) :
    Mirrors f id (fs'.isPresent p : Action Fault σ Bool) (fs.isPresent p) := by
  refine Mirrors.bind (m.locate p).attempt fun found => ?_
  cases found with
  | ok kind => exact Mirrors.pure true
  | error e => exact Mirrors.pure false

/-! ### Attributes -/

private theorem store (m : fs'.SeenAs f fs) (p : Path) (value : String) :
    Mirrors f id (Attribute.store fs' p value) (Attribute.store fs p value) :=
  (m.writeFile p _).mapError _

private theorem open_attribute (m : fs'.SeenAs f fs) (p : Path) :
    Mirrors f id (Attribute.openRead fs' p) (Attribute.openRead fs p) ∧
      Mirrors f id (Attribute.openUpdate fs' p) (Attribute.openUpdate fs p) :=
  ⟨((m.openRead p).mapError _).map _, ((m.openUpdate p).mapError _).map _⟩

private theorem onFile {work : Action IoError (σ × F) α} {work' : Action IoError (φ × F) α}
    (h : Mirrors (Prod.map f id) id work work') :
    Mirrors (Prod.map f id) id (Attribute.onFile work) (Attribute.onFile work') := by
  intro p
  have zoomed : Mirrors (Prod.map f id) id (Action.zoom Attribute.fileLens work)
      (Action.zoom Attribute.fileLens work') := h.zoom (fun _ => rfl) fun _ _ => rfl
  exact zoomed.mapError _ p

private theorem read (m : fs'.SeenAs f fs) :
    Mirrors (Prod.map f id) id (Attribute.read fs') (Attribute.read fs) := by
  refine Mirrors.bind (onFile m.rewind) fun _ => ?_
  refine Mirrors.bind (onFile m.readAll) fun bytes => ?_
  exact Mirrors.bind Mirrors.get fun _ => Mirrors.ofExcept _

private theorem write (m : fs'.SeenAs f fs) (value : String) :
    Mirrors (Prod.map f id) id (Attribute.write fs' value) (Attribute.write fs value) :=
  Mirrors.bind (onFile m.rewind) fun _ => onFile (m.overwrite _)

theorem load (m : fs'.SeenAs f fs) (p : Path) :
    Mirrors f id (Attribute.load fs' p) (Attribute.load fs p) :=
  Mirrors.bind (m.open_attribute p).1 fun a => Mirrors.bind (m.read.beside a) fun _ =>
    Mirrors.ofExcept _

/-! ### Lines -/

section Lines

open Gpio.Sysfs

variable (g : Gpio.Sysfs)

private theorem configure_line (m : fs'.SeenAs f fs) (c : Gpio.Config) :
    Mirrors f id (configure fs' g c) (configure fs g c) := by
  rw [configure_eq, configure_eq]
  refine Mirrors.bind (m.store _ _) fun _ => Mirrors.bind (g := id) ?_ fun _ => ?_
  · split
    · exact m.store _ _
    · exact Mirrors.pure ()
  · unfold openValue
    cases c.direction with
    | input => exact (m.open_attribute _).1
    | output => exact (m.open_attribute _).2

private theorem exportLine (m : fs'.SeenAs f fs) (line : UInt32) :
    Mirrors f id (exportLine fs' g line) (exportLine fs g line) :=
  Mirrors.bind (m.store _ _) fun _ => Mirrors.note _

private theorem unexportLine (m : fs'.SeenAs f fs) (line : UInt32) :
    Mirrors f id (unexportLine fs' g line) (unexportLine fs g line) :=
  m.store _ _

private theorem claim_line (m : fs'.SeenAs f fs) (c : Gpio.Config) :
    Mirrors f id (claim fs' g c) (claim fs g c) := by
  rw [claim_eq fs', claim_eq fs]
  exact Exporting.claim_mirrors _ (m.isPresent _) (m.exportLine g c.line)
    (Exporting.undo_mirrors (m.unexportLine g c.line) _) (m.configure_line g c)

private theorem close_line (m : fs'.SeenAs f fs) :
    Mirrors (Prod.map f id) id (close fs' g) (close fs g) := by
  rw [close_eq fs', close_eq fs]
  exact Exporting.close_mirrors _ _ _ fun line => m.unexportLine g line.line

theorem lines (m : fs'.SeenAs f fs) : (driver fs' g).SeenAs f id (driver fs g) where
  name := rfl
  claim := m.claim_line g
  read := by
    have reads : Mirrors (Prod.map f id) id
        (Attribute.read fs' >>= fun value =>
          Action.get >>= fun p => Action.ofExcept (levelOf p.2.path value))
        (Attribute.read fs >>= fun value =>
          Action.get >>= fun p => Action.ofExcept (levelOf p.2.path value)) :=
      Mirrors.bind m.read fun _ => Mirrors.bind Mirrors.get fun _ => Mirrors.ofExcept _
    exact reads.zoom (fun _ => rfl) fun _ _ => rfl
  write level := (m.write _).zoom (fun _ => rfl) fun _ _ => rfl
  close := m.close_line g

end Lines

/-! ### Channels -/

section Channels

open Pwm.Sysfs

variable (s : Pwm.Sysfs)

private theorem standsStill (m : fs'.SeenAs f fs) (dir : Path) :
    Mirrors f id (standsStill fs' dir) (standsStill fs dir) := by
  refine Mirrors.bind (m.load _).attempt fun result => ?_
  cases result with
  | ok value => exact Mirrors.pure _
  | error e => exact Mirrors.pure _

private theorem configure_channel (m : fs'.SeenAs f fs) (c : Pwm.Config) :
    Mirrors f id (configure fs' s c) (configure fs s c) := by
  refine Mirrors.bind (m.standsStill _) fun still => ?_
  have signal : Mirrors f id
      (do
        Attribute.store fs' ((s.channelDir c.pin).join "duty_cycle") "0"
        Attribute.store fs' ((s.channelDir c.pin).join "period") (Text.number c.period.toNat)
        Attribute.store fs' ((s.channelDir c.pin).join "duty_cycle") (Text.number c.duty.toNat)
        Attribute.store fs' ((s.channelDir c.pin).join "polarity") c.polarity.name)
      (do
        Attribute.store fs ((s.channelDir c.pin).join "duty_cycle") "0"
        Attribute.store fs ((s.channelDir c.pin).join "period") (Text.number c.period.toNat)
        Attribute.store fs ((s.channelDir c.pin).join "duty_cycle") (Text.number c.duty.toNat)
        Attribute.store fs ((s.channelDir c.pin).join "polarity") c.polarity.name) :=
    Mirrors.bind (m.store _ _) fun _ => Mirrors.bind (m.store _ _) fun _ =>
      Mirrors.bind (m.store _ _) fun _ => m.store _ _
  cases still with
  | true => exact signal
  | false => exact Mirrors.bind (m.store _ _) fun _ => signal

private theorem exportChannel (m : fs'.SeenAs f fs) (pin : UInt32) :
    Mirrors f id (exportChannel fs' s pin) (exportChannel fs s pin) :=
  Mirrors.bind (m.store _ _) fun _ => Mirrors.note _

private theorem unexportChannel (m : fs'.SeenAs f fs) (pin : UInt32) :
    Mirrors f id (unexportChannel fs' s pin) (unexportChannel fs s pin) :=
  m.store _ _

private theorem claim_channel (m : fs'.SeenAs f fs) (c : Pwm.Config) :
    Mirrors f id (claim fs' s c) (claim fs s c) := by
  rw [claim_eq fs', claim_eq fs]
  exact Exporting.claim_mirrors _ (m.isPresent _) (m.exportChannel s c.pin)
    (Exporting.undo_mirrors (m.unexportChannel s c.pin) _) (m.configure_channel s c)

private theorem close_channel (m : fs'.SeenAs f fs) :
    Mirrors (Prod.map f id) id (close fs' s) (close fs s) := by
  rw [close_eq fs', close_eq fs]
  exact Exporting.close_mirrors _ _ _ fun channel => m.unexportChannel s channel.pin

private theorem set_channel (m : fs'.SeenAs f fs) (name value : String) :
    Mirrors (Prod.map f id) id (set fs' name value) (set fs name value) := by
  refine Mirrors.bind Mirrors.get fun p => ?_
  exact (m.store _ _).zoom (fun _ => rfl) fun _ _ => rfl

theorem channels (m : fs'.SeenAs f fs) : (driver fs' s).SeenAs f id (driver fs s) where
  name := rfl
  claim := m.claim_channel s
  calls verb := by
    cases verb with
    | setRunning on => exact m.set_channel _ _
    | setPeriod period => exact m.set_channel _ _
    | setDuty duty => exact m.set_channel _ _
    | setPolarity polarity => exact m.set_channel _ _
  close := m.close_channel s

end Channels

/-! ### Converters -/

theorem converters (m : fs'.SeenAs f fs) (i : Adc.Iio) :
    (Adc.Iio.driver fs' i).SeenAs f id (Adc.Iio.driver fs i) where
  name := rfl
  claim c := Mirrors.bind (m.open_attribute _).1 fun _ =>
    Mirrors.bind (g := id) (Mirrors.note _) fun _ => Mirrors.pure _
  read := by
    have reads : Mirrors (Prod.map f id) id
        (Attribute.read fs' >>= fun value =>
          Action.get >>= fun p => Action.ofExcept (Adc.Iio.countOf p.2.path value))
        (Attribute.read fs >>= fun value =>
          Action.get >>= fun p => Action.ofExcept (Adc.Iio.countOf p.2.path value)) :=
      Mirrors.bind m.read fun _ => Mirrors.bind Mirrors.get fun _ => Mirrors.ofExcept _
    exact reads.zoom (fun _ => rfl) fun _ _ => rfl
  close := Mirrors.bind Mirrors.get fun _ => Mirrors.note _

section RealTime

open Adc.Rtos

private theorem onDevice {work : Action IoError (σ × F) α} {work' : Action IoError (φ × F) α}
    (h : Mirrors (Prod.map f id) id work work') :
    Mirrors (Prod.map f id) id (Adc.Rtos.onFile work) (Adc.Rtos.onFile work') := by
  intro p
  have zoomed : Mirrors (Prod.map f id) id (Action.zoom fileLens work)
      (Action.zoom fileLens work') := h.zoom (fun _ => rfl) fun _ _ => rfl
  exact zoomed.mapError _ p

private theorem pick_mirrors (p : Path) (pin : UInt32) (bytes : List UInt8) :
    Mirrors (Prod.map f id) id (pick p pin bytes : Action Fault (σ × Channel F) Int32)
      (pick p pin bytes) := by
  unfold pick
  split
  · exact Mirrors.fail _
  · refine Mirrors.bind (Mirrors.note _) fun _ => ?_
    split
    · exact Mirrors.pure _
    · exact Mirrors.fail _

/-- The driver of inputs that share a device. -/
theorem devices (m : fs'.SeenAs f fs) (r : Adc.Rtos) :
    (Adc.Rtos.driver fs' r).SeenAs f id (Adc.Rtos.driver fs r) where
  name := rfl
  claim c := by
    change Mirrors f id (if 255 < c.pin.toNat then _ else _) (if 255 < c.pin.toNat then _ else _)
    split
    · exact Mirrors.fail _
    · exact Mirrors.bind ((m.openRead _).mapError _) fun _ =>
        Mirrors.bind (g := id) (Mirrors.note _) fun _ => Mirrors.pure _
  read := by
    have fetches : Mirrors (Prod.map f id) id
        (Adc.Rtos.onFile (fs'.readUpTo (Adc.Sample.size * samplesPerRead)) >>= fun bytes =>
          Action.get >>= fun p => pick p.2.path p.2.pin bytes)
        (Adc.Rtos.onFile (fs.readUpTo (Adc.Sample.size * samplesPerRead)) >>= fun bytes =>
          Action.get >>= fun p => pick p.2.path p.2.pin bytes) :=
      Mirrors.bind (onDevice (m.readUpTo _)) fun _ => Mirrors.bind Mirrors.get fun _ =>
        pick_mirrors _ _ _
    unfold driver
    cases r.trigger with
    | some request => exact Mirrors.bind (onDevice (m.control request)) fun _ => fetches
    | none => exact Mirrors.bind (onDevice m.rewind) fun _ => fetches
  close := Mirrors.bind Mirrors.get fun _ => Mirrors.note _

end RealTime

end FileSystem.SeenAs

end Peripherals

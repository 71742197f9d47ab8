import Peripherals.Proofs.Pwm.Turn
/-!
Views of desks. A view shows less of a device and of its channels than there is. Main statement: where
one driver, in a view, does what another one does, every command at its desk does the same, and so does
the end of the desk.
-/

set_option autoImplicit false

namespace Peripherals

open Peripherals.Action (Mirrors)

namespace Assoc

variable {κ ν ν' : Type} [DecidableEq κ]

def map (f : ν → ν') (m : Assoc κ ν) : Assoc κ ν' :=
  ⟨m.pairs.map fun p => (p.1, f p.2)⟩

private theorem get?_map (f : ν → ν') (m : Assoc κ ν) (k : κ) :
    (m.map f).get? k = (m.get? k).map f := by
  simp only [get?, map, List.find?_map, Option.map_map]
  rfl

private theorem erase_map (f : ν → ν') (m : Assoc κ ν) (k : κ) : (m.map f).erase k =
    (m.erase k).map f := by
  simp only [erase, map, List.filter_map]
  rfl

private theorem put_map (f : ν → ν') (m : Assoc κ ν) (k : κ) (v : ν) :
    (m.map f).put k (f v) = (m.put k v).map f := by
  unfold put
  rw [erase_map]
  rfl

end Assoc

namespace HandleTable

variable {κ ν ν' : Type} [DecidableEq κ]

def map (f : ν → ν') (t : HandleTable κ ν) : HandleTable κ ν' :=
  ⟨t.slots.map fun p => (p.1, f p.2), t.index⟩

variable (f : ν → ν') (t : HandleTable κ ν)

omit [DecidableEq κ] in
private theorem get?_map (h : Handle) : (t.map f).get? h = (t.get? h).map f := by
  simp only [get?, map, Assoc.get?_map, Option.map_map]
  rfl

omit [DecidableEq κ] in
private theorem set_map (h : Handle) (v : ν) : (t.map f).set h (f v) = (t.set h v).map f := by
  unfold set
  rw [show (t.map f).slots = t.slots.map fun p => (p.1, f p.2) from rfl, Assoc.get?_map]
  cases t.slots.get? h with
  | none => rfl
  | some p =>
    simp only [Option.map_some, map]
    rw [← Assoc.put_map]

omit [DecidableEq κ] in
private theorem entries_map :
    (t.map f).entries = t.entries.map fun e => (e.1, e.2.1, f e.2.2) := by
  unfold entries
  rw [List.map_mergeSort]
  · rfl
  · intro a _ b _
    rfl

private theorem insert?_map (counter : Nat) (k : κ) (v : ν) :
    (t.map f).insert? counter k (f v) =
      (t.insert? counter k v).map fun r => (r.1, r.2.1.map f, r.2.2) := by
  unfold insert?
  rw [show (t.map f).containsKey k = t.containsKey k from rfl]
  cases t.containsKey k with
  | true => rfl
  | false =>
    simp only [Bool.false_eq_true, if_false, Option.map_some, map]
    rw [← Assoc.put_map]

private theorem remove?_map (h : Handle) :
    (t.map f).remove? h = (t.remove? h).map fun r => ((r.1.1, f r.1.2), r.2.map f) := by
  unfold remove?
  rw [show (t.map f).slots = t.slots.map fun p => (p.1, f p.2) from rfl, Assoc.get?_map]
  cases t.slots.get? h with
  | none => rfl
  | some p =>
    simp only [Option.map_some, map]
    rw [← Assoc.erase_map]

end HandleTable

variable {σ σ' S C C' A α : Type}

def Lease.seen (g : C' → C) (lease : Lease S C') : Lease S C :=
  ⟨lease.settings, g lease.channel⟩

def Desk.seen (f : σ' → σ) (g : C' → C) (d : Desk σ' S C') : Desk σ S C :=
  ⟨f d.device, d.counter, d.leases.map (Lease.seen g)⟩

section

variable {f : σ' → σ} {g : C' → C}

theorem Lease.channel_mirrors {work : Action Fault (σ' × C') α} {bare : Action Fault (σ × C) α}
    (m : Mirrors (Prod.map f g) id work bare) :
    Mirrors (Prod.map f (Lease.seen (S := S) g)) id (Action.zoom Lease.channelLens work)
      (Action.zoom Lease.channelLens bare) :=
  m.zoom (fun _ => rfl) fun _ _ => rfl

/-! ### Devices -/

/-- In the views `f` of the state and `g` of the channels, a device does what another one does. -/
structure Device.SeenAs (dev : Device σ' S C') (f : σ' → σ) (g : C' → C) (bare : Device σ S C) :
    Prop where
  trade : bare.trade = dev.trade
  backend : bare.backend = dev.backend
  claim : ∀ s, Mirrors f g (dev.claim s) (bare.claim s)
  rest : Mirrors (Prod.map f (Lease.seen g)) id dev.rest bare.rest
  close : Mirrors (Prod.map f (Lease.seen g)) id dev.close bare.close

namespace Desk

theorem withLease_seen (h : Handle) {work : Action Fault (σ' × Lease S C') A}
    {bare : Action Fault (σ × Lease S C) A}
    (m : Mirrors (Prod.map f (Lease.seen g)) id work bare) :
    Mirrors (seen f g) id (withLease h work) (withLease h bare) := by
  intro d
  have entry : (d.seen f g).leases.get? h = (d.leases.get? h).map (Lease.seen g) :=
    HandleTable.get?_map _ _ h
  simp only [withLease, entry]
  cases d.leases.get? h with
  | none => rfl
  | some lease =>
    have step := m (d.device, lease)
    simp only [Option.map_some]
    rw [show ((d.seen f g).device, lease.seen g) = Prod.map f (Lease.seen g) (d.device, lease) from
      rfl, step]
    simp only [seen, Prod.map, HandleTable.set_map]

private theorem inspect_seen (h : Handle) (view : S → A) :
    Mirrors (seen f g) id (inspect h view) (inspect h view) := by
  intro d
  have entry : (d.seen f g).leases.get? h = (d.leases.get? h).map (Lease.seen g) :=
    HandleTable.get?_map _ _ h
  simp only [inspect, entry]
  cases d.leases.get? h <;> rfl

end Desk

namespace Device.SeenAs

variable {dev : Device σ' S C'} {bare : Device σ S C}

private theorem enroll (m : dev.SeenAs f g bare) (s : S) (c : C') :
    Mirrors (Desk.seen f g) id (dev.enroll s c) (bare.enroll s (g c)) := by
  intro d
  have entry : (d.seen f g).leases.insert? (d.seen f g).counter (dev.trade.key s) ⟨s, g c⟩ =
      (d.leases.insert? d.counter (dev.trade.key s) ⟨s, c⟩).map
        fun r => (r.1, r.2.1.map (Lease.seen g), r.2.2) :=
    HandleTable.insert?_map (Lease.seen g) d.leases d.counter (dev.trade.key s) ⟨s, c⟩
  simp only [Device.enroll, Device.taken, m.trade, entry]
  cases d.leases.insert? d.counter (dev.trade.key s) ⟨s, c⟩ <;> rfl

theorem request (m : dev.SeenAs f g bare) (s : S) :
    Mirrors (Desk.seen f g) id (dev.request s) (bare.request s) := by
  unfold Device.request
  refine Mirrors.bind Mirrors.get fun d => ?_
  rw [m.trade, m.backend, show (d.seen f g).leases.containsKey (dev.trade.key s) =
    d.leases.containsKey (dev.trade.key s) from rfl]
  split
  · simp only [Device.taken, m.trade]
    exact Mirrors.fail _
  · refine Mirrors.bind ((m.claim s).zoom (fun _ => rfl) fun _ _ => rfl) fun c => ?_
    refine Mirrors.bind (m.enroll s c) fun h => ?_
    have key : bare.keyDetail (dev.trade.key s) = dev.keyDetail (dev.trade.key s) := by
      simp only [Device.keyDetail, m.trade]
    rw [key]
    exact Mirrors.bind (Mirrors.note _) fun _ => Mirrors.pure _

private theorem strike (m : dev.SeenAs f g bare) (h : Handle) :
    Mirrors (Desk.seen f g) id (dev.strike h) (bare.strike h) := by
  intro d
  have entry : (d.seen f g).leases.remove? h = (d.leases.remove? h).map
      fun r => ((r.1.1, r.1.2.seen g), r.2.map (Lease.seen g)) :=
    HandleTable.remove?_map (Lease.seen g) d.leases h
  simp only [Device.strike, Device.keyDetail, m.trade, m.backend, entry]
  cases d.leases.remove? h <;> rfl

private theorem windUp (m : dev.SeenAs f g bare) :
    Mirrors (Prod.map f (Lease.seen g)) id dev.windUp bare.windUp :=
  Mirrors.bind m.rest fun _ => m.close

private theorem release (m : dev.SeenAs f g bare) (h : Handle) :
    Mirrors (Desk.seen f g) id (dev.release h) (bare.release h) :=
  Mirrors.bind (Desk.withLease_seen h m.windUp) fun _ => m.strike h

private theorem tryLast (m : dev.SeenAs f g bare) (verb : String) (key : UInt32)
    {step : Action Fault (σ' × Lease S C') Unit} {step' : Action Fault (σ × Lease S C) Unit}
    (h : Mirrors (Prod.map f (Lease.seen g)) id step step') :
    Mirrors (Prod.map f (Lease.seen g)) id (dev.tryLast verb key step)
      (bare.tryLast verb key step') := by
  refine Mirrors.bind h.attempt fun result => ?_
  cases result with
  | ok u => exact Mirrors.pure ()
  | error e =>
    simp only [id, keyDetail, m.trade]
    exact Mirrors.note _

private theorem dismiss (m : dev.SeenAs f g bare) (h : Handle) (key : UInt32) :
    Mirrors (Prod.map f (Lease.seen g)) id (dev.dismiss h key) (bare.dismiss h key) := by
  unfold Device.dismiss
  rw [m.trade, show bare.keyDetail key = dev.keyDetail key by simp only [keyDetail, m.trade]]
  exact Mirrors.bind (Mirrors.note _) fun _ => Mirrors.bind (m.tryLast _ key m.rest) fun _ =>
    m.tryLast _ key m.close

theorem dismissAll (m : dev.SeenAs f g bare) (leftover : List (Handle × UInt32 × Lease S C')) :
    Mirrors f id (dev.dismissAll leftover)
      (bare.dismissAll (leftover.map fun e => (e.1, e.2.1, e.2.2.seen g))) := by
  induction leftover with
  | nil => exact Mirrors.pure ()
  | cons e rest ih =>
    obtain ⟨h, key, lease⟩ := e
    exact Mirrors.bind ((m.dismiss h key).beside lease) fun _ => ih

theorem teardown (m : dev.SeenAs f g bare) :
    Mirrors (Desk.seen f g) id dev.teardown bare.teardown := by
  intro d
  have entries : (d.seen f g).leases.entries =
      d.leases.entries.map fun e => (e.1, e.2.1, e.2.2.seen g) :=
    HandleTable.entries_map _ _
  have step := m.dismissAll d.leases.entries d.device
  rw [← entries] at step
  simp only [Device.teardown, HandleTable.drain, Action.zoom_apply, Desk.deviceLens]
  rw [show (d.seen f g).device = f d.device from rfl, step]
  rfl

/-- An owner gives the resource back, or drops it, in the same way. -/
theorem owned (m : dev.SeenAs f g bare) (x : Owned S) :
    Mirrors (Desk.seen f g) id (x.release dev) (x.release bare) ∧
      Mirrors (Desk.seen f g) id (x.drop dev) (x.drop bare) := by
  constructor
  · unfold Owned.release
    split
    · exact Mirrors.pure x
    · exact Mirrors.bind (m.release x.handle) fun _ => Mirrors.pure _
  · unfold Owned.drop
    split
    · exact Mirrors.pure ()
    · refine Mirrors.bind (m.release x.handle).attempt fun result => ?_
      cases result with
      | ok u => exact Mirrors.pure ()
      | error e =>
        simp only [id, keyDetail, m.trade]
        exact Mirrors.note _

end Device.SeenAs

/-! ### Errands -/

/-- In a view, an errand is the same errand at another desk. -/
inductive Errand.SeenAs (f : σ' → σ) (g : C' → C) : Errand σ' S C' A → Errand σ S C A → Prop
  | request (check : Except Fault Unit) (s : S) : SeenAs f g (.request check s) (.request check s)
  | release (h : Handle) : SeenAs f g (.release h) (.release h)
  | use (h : Handle) {work : Action Fault (σ' × Lease S C') A} {bare : Action Fault (σ × Lease S C) A}
    (m : Mirrors (Prod.map f (Lease.seen g)) id work bare) :
    SeenAs f g (.use h work) (.use h bare)
  | look (h : Handle) (view : S → A) : SeenAs f g (.look h view) (.look h view)

private theorem Errand.SeenAs.run {dev : Device σ' S C'} {bare : Device σ S C} (m : dev.SeenAs f g bare)
    (granted : Handle → A) (done : A) {e : Errand σ' S C' A} {e' : Errand σ S C A}
    (h : e.SeenAs f g e') :
    Mirrors (Desk.seen f g) id (e.run dev granted done) (e'.run bare granted done) := by
  cases h with
  | request check s => exact Mirrors.bind (Mirrors.ofExcept check) fun _ => (m.request s).map granted
  | release h => exact Mirrors.bind (m.release h) fun _ => Mirrors.pure done
  | use h work => exact Desk.withLease_seen h work
  | look h view => exact Desk.inspect_seen h view

/-! ### Drivers -/

namespace Adc

structure Driver.SeenAs (d : Driver σ' C') (f : σ' → σ) (g : C' → C) (bare : Driver σ C) : Prop where
  name : bare.name = d.name
  claim : ∀ c, Mirrors f g (d.claim c) (bare.claim c)
  read : Mirrors (Prod.map f g) id d.read bare.read
  close : Mirrors (Prod.map f g) id d.close bare.close

namespace Driver.SeenAs

variable {d : Driver σ' C'} {bare : Driver σ C}

theorem device (m : d.SeenAs f g bare) : d.device.SeenAs f g bare.device where
  trade := rfl
  backend := m.name
  claim := m.claim
  rest := Mirrors.pure ()
  close := Lease.channel_mirrors m.close

theorem perform (m : d.SeenAs f g bare) (k : Command) :
    Mirrors (Desk.seen f g) id (d.perform k) (bare.perform k) := by
  rw [perform_eq, perform_eq]
  refine Errand.SeenAs.run m.device _ _ ?_
  cases k with
  | request c => exact .request _ _
  | value h => exact .use h ((Lease.channel_mirrors m.read).map _)
  | release h => exact .release h
  | config h => exact .look h _

end Driver.SeenAs

end Adc

namespace Gpio

structure Driver.SeenAs (d : Driver σ' C') (f : σ' → σ) (g : C' → C) (bare : Driver σ C) : Prop where
  name : bare.name = d.name
  claim : ∀ c, Mirrors f g (d.claim c) (bare.claim c)
  read : Mirrors (Prod.map f g) id d.read bare.read
  write : ∀ level, Mirrors (Prod.map f g) id (d.write level) (bare.write level)
  close : Mirrors (Prod.map f g) id d.close bare.close

namespace Driver.SeenAs

variable {d : Driver σ' C'} {bare : Driver σ C}

theorem device (m : d.SeenAs f g bare) : d.device.SeenAs f g bare.device where
  trade := rfl
  backend := m.name
  claim := m.claim
  rest := Mirrors.pure ()
  close := Lease.channel_mirrors m.close

theorem driveLine (m : d.SeenAs f g bare) (level : Bool) :
    Mirrors (Prod.map f (Lease.seen g)) id (d.driveLine level) (bare.driveLine level) := by
  refine Mirrors.bind Mirrors.get fun p => ?_
  change Mirrors (Prod.map f (Lease.seen g)) id (if p.2.settings.direction = .output then _ else _)
    (if p.2.settings.direction = .output then _ else _)
  split
  · exact Lease.channel_mirrors (m.write level)
  · exact Mirrors.fail _

theorem perform (m : d.SeenAs f g bare) (k : Command) :
    Mirrors (Desk.seen f g) id (d.perform k) (bare.perform k) := by
  rw [perform_eq, perform_eq]
  refine Errand.SeenAs.run m.device _ _ ?_
  cases k with
  | request c => exact .request _ _
  | release h => exact .release h
  | level h => exact .use h ((Lease.channel_mirrors m.read).map _)
  | drive h b => exact .use h ((m.driveLine b).map _)
  | name h => exact .look h _
  | direction h => exact .look h _
  | line h => exact .look h _

end Driver.SeenAs

end Gpio

namespace Pwm

structure Driver.SeenAs (d : Driver σ' C') (f : σ' → σ) (g : C' → C) (bare : Driver σ C) : Prop where
  name : bare.name = d.name
  claim : ∀ c, Mirrors f g (d.claim c) (bare.claim c)
  calls : ∀ verb, Mirrors (Prod.map f g) id (d.calls verb) (bare.calls verb)
  close : Mirrors (Prod.map f g) id d.close bare.close

namespace Driver.SeenAs

variable {d : Driver σ' C'} {bare : Driver σ C}

private theorem recorded : Mirrors (Prod.map f (Lease.seen g)) id recorded recorded :=
  Mirrors.bind Mirrors.get fun _ => Mirrors.pure _

theorem turn (m : d.SeenAs f g bare) (verb : Verb) :
    Mirrors (Prod.map f (Lease.seen g)) id (d.turn verb) (bare.turn verb) :=
  Mirrors.bind (Lease.channel_mirrors (m.calls verb)) fun _ _ => rfl

private theorem turnIf (m : d.SeenAs f g bare) (running : Bool) (verb : Verb) :
    Mirrors (Prod.map f (Lease.seen g)) id (if running then d.turn verb else pure ())
      (if running then bare.turn verb else pure ()) := by
  split
  · exact m.turn verb
  · exact Mirrors.pure ()

theorem device (m : d.SeenAs f g bare) : d.device.SeenAs f g bare.device where
  trade := rfl
  backend := m.name
  claim s := m.claim s.config
  rest := Mirrors.bind recorded fun s => m.turnIf s.running (.setRunning false)
  close := Lease.channel_mirrors m.close

private theorem changePeriod (m : d.SeenAs f g bare) (period : UInt32) :
    Mirrors (Prod.map f (Lease.seen g)) id (d.changePeriod period) (bare.changePeriod period) :=
  Mirrors.bind recorded fun _ => Mirrors.bind (Mirrors.ofExcept _) fun _ =>
    m.turn (.setPeriod period)

private theorem changeDuty (m : d.SeenAs f g bare) (duty : UInt32) :
    Mirrors (Prod.map f (Lease.seen g)) id (d.changeDuty duty) (bare.changeDuty duty) :=
  Mirrors.bind recorded fun _ => Mirrors.bind (Mirrors.ofExcept _) fun _ => m.turn (.setDuty duty)

private theorem changePolarity (m : d.SeenAs f g bare) (polarity : Polarity) :
    Mirrors (Prod.map f (Lease.seen g)) id (d.changePolarity polarity)
      (bare.changePolarity polarity) := by
  rw [changePolarity_eq_turn, changePolarity_eq_turn]
  refine Mirrors.bind recorded fun s => ?_
  refine Mirrors.bind (m.turnIf s.running (.setRunning false)) fun _ => ?_
  refine Mirrors.bind (m.turn (.setPolarity polarity)) fun _ => ?_
  exact m.turnIf s.running (.setRunning true)

theorem perform (m : d.SeenAs f g bare) (k : Command) :
    Mirrors (Desk.seen f g) id (d.perform k) (bare.perform k) := by
  rw [perform_eq, perform_eq]
  refine Errand.SeenAs.run m.device _ _ ?_
  cases k with
  | request c => exact .request _ _
  | release h => exact .release h
  | enable h => exact .use h ((m.turn (.setRunning true)).map _)
  | disable h => exact .use h ((m.turn (.setRunning false)).map _)
  | setPeriod h period => exact .use h ((m.changePeriod period).map _)
  | setDuty h duty => exact .use h ((m.changeDuty duty).map _)
  | setPolarity h polarity => exact .use h ((m.changePolarity polarity).map _)
  | config h => exact .look h _
  | isEnabled h => exact .look h _

end Driver.SeenAs

end Pwm

end

end Peripherals

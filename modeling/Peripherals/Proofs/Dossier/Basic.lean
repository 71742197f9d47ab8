import Peripherals.Proofs.Files.Ports
import Peripherals.Proofs.Journal.Basic
/-!
Dossiers: drivers under watch, which write down for every call to a device what the call asked of the
files, and the fault with which it failed. Channels are named as in a journal, by the place of their
opening among all calls. Main statement: a documented driver does what the driver does.
-/

set_option autoImplicit false

namespace Peripherals

open Peripherals.Action (Mirrors)

variable {φ T V C α : Type}

/-- One call to a device: the channel it is about, what was asked, what the call asked of the files in
turn, and the fault with which it failed. -/
structure Record (T V : Type) where
  tag : Tag
  act : Act T V
  files : FileLog
  fault? : Option Fault

abbrev Dossier (T V : Type) := List (Record T V)

namespace Dossier

def files (dossier : Dossier T V) : FileLog :=
  dossier.flatMap (·.files)

def claiming (key : UInt32) (settings : T) (x : Action Fault (φ × FileLog) C) :
    Action Fault (φ × Dossier T V) (Tagged C) := fun (s, dossier) =>
  let r := x (s, [])
  let tag : Tag := ⟨dossier.length, key⟩
  ⟨r.answer.map (⟨·, tag⟩), r.events,
    (r.state.1, dossier ++ [⟨tag, .claim settings, r.state.2, failure? r.answer⟩])⟩

def calling (act : Act T V) (x : Action Fault ((φ × FileLog) × C) α) :
    Action Fault ((φ × Dossier T V) × Tagged C) α := fun ((s, dossier), c) =>
  let r := x ((s, []), c.channel)
  ⟨r.answer, r.events, ((r.state.1.1,
    dossier ++ [⟨c.tag, act, r.state.1.2, failure? r.answer⟩]), { c with channel := r.state.2 })⟩

private theorem claiming_mirrors (key : UInt32) (settings : T) {x : Action Fault (φ × FileLog) C}
    {bare : Action Fault φ C} (m : Mirrors Prod.fst id x bare) :
    Mirrors Prod.fst Tagged.channel
      (claiming key settings x : Action Fault (φ × Dossier T V) (Tagged C)) bare := by
  intro p
  have step := m (p.1, [])
  change bare p.1 = _ at step
  rw [step]
  simp only [claiming]
  cases (x (p.1, [])).answer <;> rfl

private theorem calling_mirrors (act : Act T V) {x : Action Fault ((φ × FileLog) × C) α}
    {bare : Action Fault (φ × C) α} (m : Mirrors (Prod.map Prod.fst id) id x bare) :
    Mirrors (Prod.map (Prod.fst (α := φ) (β := Dossier T V)) Tagged.channel) id (calling act x)
      bare := by
  intro p
  have step := m ((p.1.1, []), p.2.channel)
  change bare (p.1.1, p.2.channel) = _ at step
  rw [show Prod.map (Prod.fst (α := φ) (β := Dossier T V)) Tagged.channel p =
    (p.1.1, p.2.channel) from rfl, step]
  simp only [calling]
  cases (x ((p.1.1, []), p.2.channel)).answer <;> rfl

end Dossier

/-! ### Documented drivers -/

namespace Gpio.Driver

def documented (d : Driver (φ × FileLog) C) : Driver (φ × Dossier Config Verb) (Tagged C) where
  name := d.name
  claim c := Dossier.claiming c.line c (d.claim c)
  read := Dossier.calling (.use .read) d.read
  write level := Dossier.calling (.use (.write level)) (d.write level)
  close := Dossier.calling .close d.close

/-- Writing calls down changes nothing else. -/
theorem documented_seenAs {d : Driver (φ × FileLog) C} {bare : Driver φ C}
    (m : d.SeenAs Prod.fst id bare) : d.documented.SeenAs Prod.fst Tagged.channel bare where
  name := m.name
  claim c := Dossier.claiming_mirrors _ _ (m.claim c)
  read := Dossier.calling_mirrors _ m.read
  write level := Dossier.calling_mirrors _ (m.write level)
  close := Dossier.calling_mirrors _ m.close

end Gpio.Driver

namespace Pwm.Driver

def documented (d : Driver (φ × FileLog) C) : Driver (φ × Dossier Config Verb) (Tagged C) where
  name := d.name
  claim c := Dossier.claiming c.pin c (d.claim c)
  setRunning on := Dossier.calling (.use (.setRunning on)) (d.setRunning on)
  setPeriod period := Dossier.calling (.use (.setPeriod period)) (d.setPeriod period)
  setDuty duty := Dossier.calling (.use (.setDuty duty)) (d.setDuty duty)
  setPolarity polarity := Dossier.calling (.use (.setPolarity polarity)) (d.setPolarity polarity)
  close := Dossier.calling .close d.close

theorem documented_calls (d : Driver (φ × FileLog) C) (verb : Verb) :
    d.documented.calls verb = Dossier.calling (.use verb) (d.calls verb) := by
  cases verb <;> rfl

theorem documented_seenAs {d : Driver (φ × FileLog) C} {bare : Driver φ C}
    (m : d.SeenAs Prod.fst id bare) : d.documented.SeenAs Prod.fst Tagged.channel bare where
  name := m.name
  claim c := Dossier.claiming_mirrors _ _ (m.claim c)
  calls verb := by
    rw [documented_calls]
    exact Dossier.calling_mirrors _ (m.calls verb)
  close := Dossier.calling_mirrors _ m.close

end Pwm.Driver

end Peripherals

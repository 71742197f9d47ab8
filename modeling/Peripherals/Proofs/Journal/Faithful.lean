import Peripherals.Proofs.Desk.Seen
/-!
Watching changes nothing: a desk over a watched driver answers, reports and works on the device as the
desk over the driver itself.
-/

set_option autoImplicit false

namespace Peripherals

open Peripherals.Action (Mirrors)

variable {σ S T V C α : Type}

def Lease.unwatched (lease : Lease S (Tagged C)) : Lease S C :=
  ⟨lease.settings, lease.channel.channel⟩

def Desk.unwatched (d : Desk (σ × Journal T V) S (Tagged C)) : Desk σ S C :=
  ⟨d.device.1, d.counter, d.leases.map Lease.unwatched⟩

namespace Journal

private theorem claiming_mirrors (key : UInt32) (settings : T) (x : Action Fault σ C) :
    Mirrors Prod.fst Tagged.channel
      (claiming key settings x : Action Fault (σ × Journal T V) (Tagged C)) x := by
  intro p
  cases h : x p.1 with
  | mk answer events state => cases answer <;> simp [claiming, h, Except.map]

private theorem calling_mirrors (act : Act T V) (x : Action Fault (σ × C) α) :
    Mirrors (Prod.map (Prod.fst (α := σ) (β := Journal T V)) Tagged.channel) id (calling act x) x := by
  intro p
  cases h : x (p.1.1, p.2.channel) with
  | mk answer events state =>
    have same : x (Prod.map Prod.fst Tagged.channel p) = ⟨answer, events, state⟩ := h
    cases answer <;> simp [calling, same, h, Except.map]

end Journal

theorem Adc.Driver.watched_seenAs (d : Adc.Driver σ C) :
    d.watched.SeenAs Prod.fst Tagged.channel d where
  name := rfl
  claim c := Journal.claiming_mirrors c.pin c (d.claim c)
  read := Journal.calling_mirrors _ d.read
  close := Journal.calling_mirrors _ d.close

theorem Gpio.Driver.watched_seenAs (d : Gpio.Driver σ C) :
    d.watched.SeenAs Prod.fst Tagged.channel d where
  name := rfl
  claim c := Journal.claiming_mirrors c.line c (d.claim c)
  read := Journal.calling_mirrors _ d.read
  write level := Journal.calling_mirrors _ (d.write level)
  close := Journal.calling_mirrors _ d.close

theorem Pwm.Driver.watched_seenAs (d : Pwm.Driver σ C) :
    d.watched.SeenAs Prod.fst Tagged.channel d where
  name := rfl
  claim c := Journal.claiming_mirrors c.pin c (d.claim c)
  calls verb := by
    rw [d.watched_calls]
    exact Journal.calling_mirrors _ (d.calls verb)
  close := Journal.calling_mirrors _ d.close

theorem Pwm.Driver.watched_mirroredBy (d : Pwm.Driver σ C) :
    d.watched.device.SeenAs Prod.fst Tagged.channel d.device :=
  d.watched_seenAs.device

/-- A watched desk of analog inputs does what the desk does. -/
theorem Adc.Driver.perform_watched (d : Adc.Driver σ C) (k : Adc.Command) :
    Mirrors Desk.unwatched id (d.watched.perform k) (d.perform k) :=
  d.watched_seenAs.perform k

theorem Gpio.Driver.perform_watched (d : Gpio.Driver σ C) (k : Gpio.Command) :
    Mirrors Desk.unwatched id (d.watched.perform k) (d.perform k) :=
  d.watched_seenAs.perform k

theorem Pwm.Driver.perform_watched (d : Pwm.Driver σ C) (k : Pwm.Command) :
    Mirrors Desk.unwatched id (d.watched.perform k) (d.perform k) :=
  d.watched_seenAs.perform k

end Peripherals

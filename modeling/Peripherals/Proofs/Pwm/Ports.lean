import Peripherals.Proofs.Files.Ports
/-!
The ports of channels. Main statement: only claims and closings of channels come near them.
-/

set_option autoImplicit false

namespace Peripherals.Pwm.Sysfs

open Peripherals.Ports (Writes)

variable {φ F : Type} (s : Sysfs)

theorem chipDir_solid : s.chipDir.Solid := by
  obtain ⟨front, last, text, other⟩ := (Path.numbered_text "pwmchip" s.chip).1
  exact Path.solid_join _ _ text other

def ports : Ports Channel where
  dir := s.chipDir
  home := s.channelDir
  fault? := FileEvent.writeFault?
  fault?_looked _ _ := rfl
  fault?_wrote _ _ _ := rfl
  solid := s.chipDir_solid
  home_below pin := by
    have text := (Path.numbered_text "pwm" pin).2
    exact ⟨'p', s.chipDir_solid.below _ text, by decide, by decide⟩
  own key channel := channel.pin = key ∧ channel.dir = s.channelDir key
  marked channel := channel.exported

variable (fs : FileSystem φ F)

theorem exportChannel_writes (pin : UInt32) :
    Writes (exportChannel fs.watched s pin) s.ports.outlet (s.ports.exporting pin) := by
  refine Logs.bind (Logs.store fs _ _) (fun log e failed => failed) fun log u written => ?_
  refine .of_still (fun _ => rfl) fun _ => ?_
  rw [List.append_nil]
  exact written

theorem attribute_not_isPort (pin : UInt32) (name : String) :
    ¬ s.ports.IsPort ((s.channelDir pin).join name) :=
  s.ports.home_join pin name

private theorem standsStill_steps (pin : UInt32) :
    s.ports.Steps (standsStill fs.watched (s.channelDir pin)) := by
  refine Logs.bind (Logs.load fs _).attempt (fun _ _ failed => failed.elim) fun log result opened => ?_
  obtain ⟨cause?, rfl⟩ := opened
  have quiet : s.ports.traffic [.opened ((s.channelDir pin).join "enable") cause?] = [] :=
    Ports.traffic_singleton (s.attribute_not_isPort pin "enable")
  cases result with
  | ok value => exact .of_still (fun _ => rfl) fun _ => ⟨quiet, rfl⟩
  | error e => exact .of_still (fun _ => rfl) fun _ => ⟨quiet, rfl⟩

private theorem configure_steps (c : Config) : s.ports.Steps (configure fs.watched s c) := by
  have store (name value : String) :
      s.ports.Steps (Attribute.store fs.watched ((s.channelDir c.pin).join name) value) :=
    Ports.Steps.store fs (s.attribute_not_isPort c.pin name) value
  have signal := (store "duty_cycle" "0").bind fun _ =>
    (store "period" (Text.number c.period.toNat)).bind fun _ =>
      (store "duty_cycle" (Text.number c.duty.toNat)).bind fun _ => store "polarity" c.polarity.name
  refine (s.standsStill_steps fs c.pin).bind fun still => ?_
  cases still with
  | true => exact signal
  | false => exact (store "enable" "0").bind fun _ => signal

theorem claim_claims (c : Config) : s.ports.Claims c.pin (claim fs.watched s c) := by
  rw [claim_eq]
  exact Ports.claims_of_steps (p := s.ports)
    (fun exported _ => (⟨c.pin, s.channelDir c.pin, exported⟩ : Channel))
    (fun _ _ => ⟨⟨rfl, rfl⟩, rfl⟩) _ (Logs.isPresent fs _)
    (s.exportChannel_writes fs c.pin) (Logs.store fs _ _) (s.configure_steps fs c)

theorem set_passes (name value : String) : s.ports.Passes (set fs.watched name value) := by
  rintro key ⟨q, channel⟩ own
  obtain ⟨rfl, dir⟩ := own
  obtain ⟨log, state, cause?, rfl, _⟩ := Logs.store fs (channel.dir.join name) value q
  refine ⟨_, state, Ports.traffic_singleton ?_, ⟨rfl, dir⟩, rfl⟩
  rw [show (FileEvent.wrote (channel.dir.join name) (Text.bytesOf value) cause?).path =
    channel.dir.join name from rfl, dir]
  exact s.attribute_not_isPort channel.pin name

theorem close_closes : s.ports.Closes (close fs.watched s) := by
  rw [close_eq]
  refine Ports.closes_of_writes (p := s.ports) (fun channel => { channel with exported := false })
    (fun channel => ⟨rfl, fun _ own => own⟩) _ ?_
  rintro _ channel ⟨rfl, _⟩
  exact Logs.store fs _ _

end Peripherals.Pwm.Sysfs

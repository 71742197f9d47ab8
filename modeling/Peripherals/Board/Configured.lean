import Peripherals.Board.Basic
import Peripherals.Board.Detection
import Peripherals.Configuration.Basic
/-!
The board that a configuration describes: which modules it offers, on which backends.
-/

set_option autoImplicit false

namespace Peripherals.Board

variable {φ F : Type}

/-- What a module works on if the configuration leaves it open: the kernel's attributes, or what suits
a real-time system. -/
def usualBacking (platform : Platform) (onRealTime : Backing) : Backing :=
  if platform.isRealTime then onRealTime else .sysfs

def adcOffer? (c : Configuration) : Backing → Option (Offer (Rig φ F))
  | .sysfs => some ⟨"iio", Rig.addAdc fun _ => .iio ⟨⟨c.board.sysfsRoot⟩, c.adc.device⟩⟩
  | .tizenrt =>
    some ⟨"tizenrt", Rig.addAdc fun _ => .rtos ⟨⟨c.board.devRoot⟩, c.adc.device, c.adc.trigger⟩⟩
  | .mock => some ⟨"mock", Rig.addAdc fun serial => .simulated serial Adc.Bank.usualSize⟩
  | .disabled => none

def gpioOffer? (c : Configuration) : Backing → Option (Offer (Rig φ F))
  | .sysfs => some ⟨"sysfs", Rig.addGpio fun _ => .sysfs ⟨⟨c.board.sysfsRoot⟩⟩⟩
  | .mock => some ⟨"mock", Rig.addGpio fun serial => .simulated serial⟩
  | .tizenrt | .disabled => none

def pwmOffer? (c : Configuration) : Backing → Option (Offer (Rig φ F))
  | .sysfs => some ⟨"sysfs", Rig.addPwm fun _ => .sysfs ⟨⟨c.board.sysfsRoot⟩, c.pwm.chip⟩⟩
  | .mock => some ⟨"mock", Rig.addPwm fun serial => .simulated serial⟩
  | .tizenrt | .disabled => none

def offer? {τ : Type} (b : Board τ) (kind : ModuleKind) : Option (Offer τ) → Board τ
  | some o => b.offer kind o
  | none => b

def ofPlatform (c : Configuration) (platform : Platform) : Board (Rig φ F) :=
  let adc := c.adc.backing.getD (usualBacking platform .tizenrt)
  let gpio := c.gpio.backing.getD (usualBacking platform .disabled)
  let pwm := c.pwm.backing.getD (usualBacking platform .disabled)
  let bare : Board (Rig φ F) := { platform }
  ((bare.offer? .adc (adcOffer? c adc)).offer? .gpio (gpioOffer? c gpio)).offer? .pwm
    (pwmOffer? c pwm)

def ofConfiguration (fs : FileSystem φ F) (c : Configuration) : Action Fault φ (Board (Rig φ F)) := do
  Action.ofExcept (c.validate.mapError Fault.configuration)
  let platform ← Platform.resolve fs c.board.model ⟨c.board.procRoot⟩
  let board := ofPlatform c platform
  Action.note ⟨.info, "Module registry ready",
    [("platform", platform.name), ("modules", kindsLabel board.available)]⟩
  return board

end Peripherals.Board

import Peripherals.FileSystem
import Peripherals.Platform
import Peripherals.Text.Blank
import Peripherals.Text.Utf8
/-!
Detection: which platform a board is, from the model that its device tree names.
-/

set_option autoImplicit false

namespace Peripherals.Platform

variable {φ F ε : Type} (fs : FileSystem φ F)

def readModel (path : Path) : Action IoError φ String := do
  match Text.ofBytes? (← fs.readFile path) with
  | some s => return s
  | none => Action.fail IoError.notText

def shownModel (model : String) : String :=
  String.ofList (Text.dropEndWhile (fun c => c.toNat == 0) model.toList)

/-- The platform named by the device tree below a directory; without one the platform is generic. -/
def detect (procRoot : Path) : Action ε φ Platform := do
  let path := procRoot.join "device-tree/model"
  match ← Action.attempt (readModel fs path) with
  | .ok model =>
    let platform := ofModel model
    Action.note ⟨.debug, "Detected platform",
      [("model", shownModel model), ("platform", platform.name)]⟩
    return platform
  | .error e =>
    Action.note ⟨.debug, "No device-tree model, assuming generic platform",
      [("path", path.text), ("error", e.text)]⟩
    return .generic

/-- The platform of a model text, or the detected one where none is given. -/
def resolve (model : Option String) (procRoot : Path) : Action ε φ Platform :=
  match model with
  | some m => return ofModel m
  | none => detect fs procRoot

end Peripherals.Platform

import Peripherals.FileSystem
import Peripherals.Logging
/-!
Consoles: what a program does to its surroundings beside the files it works on.
-/

set_option autoImplicit false

namespace Peripherals

/-- How printing and waiting change the surroundings `φ`, and where events are written. -/
structure Console (φ : Type) where
  print : String → φ → φ
  pause : UInt64 → φ → φ
  /-- Waits until the user wants to go on, if this can be noticed. -/
  hold : Action IoError φ Unit
  logger : Logging.Facility

/-- Files and what was printed beside them. -/
structure Screen (φ : Type) where
  files : φ
  printed : String := ""

namespace Screen

variable {φ : Type}

def filesLens : Lens (Screen φ) φ where
  get s := s.files
  set files s := { s with files }

/-- A console that keeps what is printed and takes no time. -/
def console (logger : Logging.Facility := .occupied) : Console (Screen φ) where
  print text s := { s with printed := s.printed ++ text }
  pause _ s := s
  hold := pure ()
  logger := logger

end Screen

end Peripherals

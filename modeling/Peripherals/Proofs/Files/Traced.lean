import Peripherals.Proofs.Files.Watched
/-!
File systems that keep a trace of what is written by path, each write with the states before and after
it. Main statement: keeping the trace changes nothing else.
-/

set_option autoImplicit false

namespace Peripherals

variable {φ F : Type}

/-- A write to a file, and the file system before and after it. -/
structure Write (φ : Type) where
  path : Path
  bytes : List UInt8
  fault? : Option IoError
  before : φ
  after : φ

abbrev Trace (φ : Type) := List (Write φ)

namespace Trace

/-- These bytes were written to the file. -/
def Wrote (trace : Trace φ) (path : Path) (bytes : List UInt8) : Prop :=
  ∃ w ∈ trace, w.path = path ∧ w.bytes = bytes ∧ w.fault? = none

/-- What was last written to a file, by a write that was done. -/
def last? (trace : Trace φ) (path : Path) : Option (List UInt8) :=
  trace.foldl (fun last w => if w.path = path ∧ w.fault? = none then some w.bytes else last) none

theorem wrote_concat {trace : Trace φ} {w : Write φ} {path : Path} {bytes : List UInt8} :
    Wrote (trace ++ [w]) path bytes ↔
      trace.Wrote path bytes ∨ (w.path = path ∧ w.bytes = bytes ∧ w.fault? = none) := by
  simp [Wrote, or_and_right, exists_or]

theorem last?_concat (trace : Trace φ) (w : Write φ) (path : Path) :
    last? (trace ++ [w]) path =
      if w.path = path ∧ w.fault? = none then some w.bytes else trace.last? path :=
  List.foldl_append

end Trace

namespace FileSystem

/-- A file system with the trace of what is written to it. -/
def traced (fs : FileSystem φ F) : FileSystem (φ × Trace φ) F :=
  { fs.zoom Lens.fst with
    writeFile := fun path bytes (t, trace) =>
      let r := fs.writeFile path bytes t
      ⟨r.answer, r.events, (r.state, trace ++ [⟨path, bytes, failure? r.answer, t, r.state⟩])⟩ }

theorem traced_seenAs (fs : FileSystem φ F) : fs.traced.SeenAs Prod.fst fs :=
  { fs.zoom_fst_seenAs with
    writeFile := fun path bytes p => by
      simp only [traced]
      cases h : fs.writeFile path bytes p.1 with
      | mk answer events state => cases answer <;> rfl }

end FileSystem

end Peripherals

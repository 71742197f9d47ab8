import Peripherals.Assoc
import Peripherals.Handle
/-!
A table of live resources, each found by its handle or by its key. Fresh handles come from a counter
that the caller keeps, so that several tables can share it.
-/

set_option autoImplicit false

namespace Peripherals

/-- Entries by handle, and the handle of each key. -/
structure HandleTable (κ ν : Type) where
  slots : Assoc Handle (κ × ν) := ∅
  index : Assoc κ Handle := ∅

namespace HandleTable

variable {κ ν : Type} [DecidableEq κ]

instance : EmptyCollection (HandleTable κ ν) := ⟨⟨∅, ∅⟩⟩

instance : Inhabited (HandleTable κ ν) := ⟨∅⟩

def size (t : HandleTable κ ν) : Nat :=
  t.slots.size

def isEmpty (t : HandleTable κ ν) : Bool :=
  t.size == 0

def containsKey (t : HandleTable κ ν) (k : κ) : Bool :=
  t.index.contains k

def handleOf? (t : HandleTable κ ν) (k : κ) : Option Handle :=
  t.index.get? k

def get? (t : HandleTable κ ν) (h : Handle) : Option ν :=
  (t.slots.get? h).map (·.2)

def keyOf? (t : HandleTable κ ν) (h : Handle) : Option κ :=
  (t.slots.get? h).map (·.1)

/-- Enters a value under a key that is free; the answer is its handle, the table and the counter
after it. A key in use refuses the entry. -/
def insert? (t : HandleTable κ ν) (counter : Nat) (k : κ) (v : ν) :
    Option (Handle × HandleTable κ ν × Nat) :=
  if t.containsKey k then none
  else
    let h : Handle := ⟨counter⟩
    some (h, ⟨t.slots.put h (k, v), t.index.put k h⟩, counter + 1)

def set (t : HandleTable κ ν) (h : Handle) (v : ν) : HandleTable κ ν :=
  match t.slots.get? h with
  | some (k, _) => { t with slots := t.slots.put h (k, v) }
  | none => t

def remove? (t : HandleTable κ ν) (h : Handle) : Option ((κ × ν) × HandleTable κ ν) :=
  (t.slots.get? h).map fun (k, v) => ((k, v), ⟨t.slots.erase h, t.index.erase k⟩)

def entries (t : HandleTable κ ν) : List (Handle × κ × ν) :=
  t.slots.pairs.mergeSort (fun a b => a.1.number ≤ b.1.number)

def handles (t : HandleTable κ ν) : List Handle :=
  t.entries.map (·.1)

def find? (t : HandleTable κ ν) (p : κ → ν → Bool) : Option Handle :=
  (t.entries.find? (fun e => p e.2.1 e.2.2)).map (·.1)

def drain (t : HandleTable κ ν) : List (Handle × κ × ν) × HandleTable κ ν :=
  (t.entries, ∅)

/-- A table in diagnostics: its keys, each as `show` writes it. -/
def label (t : HandleTable κ ν) (write : κ → String) : String :=
  "HandleRegistry \x7b keys: [" ++ String.intercalate ", " (t.entries.map fun e => write e.2.1) ++
    "] \x7d"

end HandleTable

end Peripherals

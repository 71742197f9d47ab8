/-!
Finite maps as lists of pairs, newest key first. Main statements: what each operation does to
`get?`.
-/

set_option autoImplicit false

namespace Peripherals

/-- A finite map. Of two pairs with one key the first counts; `put` and `erase` leave no second. -/
structure Assoc (κ ν : Type) where
  pairs : List (κ × ν) := []
  deriving Repr

namespace Assoc

variable {κ ν : Type} [DecidableEq κ]

instance : EmptyCollection (Assoc κ ν) := ⟨⟨[]⟩⟩

instance : Inhabited (Assoc κ ν) := ⟨∅⟩

def get? (m : Assoc κ ν) (k : κ) : Option ν :=
  (m.pairs.find? (fun p => p.1 = k)).map (·.2)

def erase (m : Assoc κ ν) (k : κ) : Assoc κ ν :=
  ⟨m.pairs.filter (fun p => p.1 ≠ k)⟩

def put (m : Assoc κ ν) (k : κ) (v : ν) : Assoc κ ν :=
  ⟨(k, v) :: (m.erase k).pairs⟩

def contains (m : Assoc κ ν) (k : κ) : Bool :=
  (m.get? k).isSome

def getD (m : Assoc κ ν) (k : κ) (default : ν) : ν :=
  (m.get? k).getD default

def size (m : Assoc κ ν) : Nat :=
  m.pairs.length

def keys (m : Assoc κ ν) : List κ :=
  m.pairs.map (·.1)

@[simp] theorem get?_empty (k : κ) : (∅ : Assoc κ ν).get? k = none := rfl

private theorem find?_filter_ne (l : List (κ × ν)) {k j : κ} (h : j ≠ k) :
    (l.filter (fun p => p.1 ≠ k)).find? (fun p => p.1 = j) = l.find? (fun p => p.1 = j) := by
  induction l with
  | nil => rfl
  | cons p l ih =>
    by_cases hp : p.1 = k
    · have hj : ¬ p.1 = j := fun e => h (e ▸ hp)
      simp only [List.find?_cons, hj]
      simpa [hp, Ne.symm h] using ih
    · by_cases hj : p.1 = j <;> simp_all

@[simp] theorem get?_erase_self (m : Assoc κ ν) (k : κ) : (m.erase k).get? k = none := by
  simp [erase, get?]

theorem get?_erase_of_ne (m : Assoc κ ν) {k j : κ} (h : j ≠ k) :
    (m.erase k).get? j = m.get? j := by
  simp only [erase, get?, find?_filter_ne m.pairs h]

@[simp] theorem get?_put_self (m : Assoc κ ν) (k : κ) (v : ν) : (m.put k v).get? k = some v := by
  simp [put, get?]

theorem get?_put_of_ne (m : Assoc κ ν) {k j : κ} (v : ν) (h : j ≠ k) :
    (m.put k v).get? j = m.get? j := by
  have hk : ¬ k = j := fun e => h e.symm
  simp only [put, get?, List.find?_cons, hk]
  exact congrArg _ (find?_filter_ne m.pairs h)

theorem get?_erase (m : Assoc κ ν) (k j : κ) :
    (m.erase k).get? j = if j = k then none else m.get? j := by
  split
  · next h => simp [h]
  · next h => exact get?_erase_of_ne m h

theorem get?_put (m : Assoc κ ν) (k j : κ) (v : ν) :
    (m.put k v).get? j = if j = k then some v else m.get? j := by
  split
  · next h => simp [h]
  · next h => exact get?_put_of_ne m v h

end Assoc

end Peripherals

import Mathlib.Data.List.Nodup
/-!
Lists of values under keys, of which the first under a key counts.
-/

set_option autoImplicit false

namespace Peripherals

variable {κ ν : Type} [BEq κ] [LawfulBEq κ] {known : List (κ × ν)} {k : κ} {v : ν}

theorem lookup_cons_of_ne {j : κ} (other : k ≠ j) (w : ν) (known : List (κ × ν)) :
    ((j, w) :: known).lookup k = known.lookup k := by
  rw [List.lookup_cons, beq_false_of_ne other]

theorem lookup_fresh (fresh : k ∉ known.map Prod.fst) : known.lookup k = none := by
  refine List.lookup_eq_none_iff.mpr fun p member => ?_
  rw [bne_iff_ne]
  exact fun same => fresh (same ▸ List.mem_map_of_mem member)

theorem mem_of_lookup (found : known.lookup k = some v) : (k, v) ∈ known := by
  obtain ⟨before, after, rfl, -⟩ := List.lookup_eq_some_iff.mp found
  simp

/-- Where no key stands twice, every value counts. -/
theorem lookup_of_mem (nodup : (known.map Prod.fst).Nodup) (member : (k, v) ∈ known) :
    known.lookup k = some v := by
  induction known with
  | nil => cases member
  | cons p known ih =>
    obtain ⟨absent, nodup⟩ := List.nodup_cons.mp nodup
    rcases List.mem_cons.mp member with rfl | member
    · exact List.lookup_cons_self
    · have other : k ≠ p.1 := by
        intro same
        exact absent (List.mem_map.mpr ⟨(k, v), member, same⟩)
      rw [lookup_cons_of_ne other, ih nodup member]

end Peripherals

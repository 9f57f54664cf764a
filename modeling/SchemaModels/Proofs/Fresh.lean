/-
A numbered name is free before the taken ones run out.

Candidates with pairwise different names are tried in their order.  No more of them can be taken one
after the other than there are taken names, so the first candidate whose name is free is among as
many and one more.
-/
import Mathlib.Data.Finset.Card
import Mathlib.Data.Finset.Dedup

namespace SchemaModels

variable {α β : Type} [DecidableEq α]

theorem le_card_of_taken {candidate : Nat → α} (hdiffer : Function.Injective candidate)
    {taken : List α} {k : Nat} (h : ∀ j < k, candidate j ∈ taken) :
    k ≤ taken.toFinset.card := by
  have hsub : (Finset.range k).image candidate ⊆ taken.toFinset := by
    intro a ha
    obtain ⟨j, hj, rfl⟩ := Finset.mem_image.mp ha
    exact List.mem_toFinset.mpr (h j (Finset.mem_range.mp hj))
  have hcard := Finset.card_le_card hsub
  rwa [Finset.card_image_of_injective _ hdiffer, Finset.card_range] at hcard

/-- Of pairwise different candidates one more than there are taken ones are not all taken. -/
theorem exists_not_mem_of_injective {candidate : Nat → α}
    (hdiffer : Function.Injective candidate) (taken : List α) :
    ∃ k < taken.length + 1, candidate k ∉ taken := by
  by_contra hnone
  push Not at hnone
  have hmany := le_card_of_taken hdiffer hnone
  have hfew := taken.toFinset_card_le
  omega

/-- The search finds the first candidate whose name is free. -/
theorem exists_first_free (name : β → α) (candidate : Nat → β)
    (hdiffer : Function.Injective fun k => name (candidate k)) (taken : List α) :
    ∃ k, ((List.range (taken.length + 1)).map candidate).find?
          (fun b => !taken.contains (name b)) = some (candidate k) ∧
      name (candidate k) ∉ taken ∧ ∀ j < k, name (candidate j) ∈ taken := by
  obtain ⟨i, hi, hfree⟩ := exists_not_mem_of_injective hdiffer taken
  have hsome : ((List.range (taken.length + 1)).find?
      fun k => !taken.contains (name (candidate k))).isSome = true :=
    List.find?_isSome.mpr ⟨i, List.mem_range.mpr hi, by simpa using hfree⟩
  obtain ⟨k, hk⟩ := Option.isSome_iff_exists.mp hsome
  obtain ⟨hkfree, -, hbefore⟩ := List.find?_range_eq_some.mp hk
  refine ⟨k, ?_, by simpa using hkfree, fun j hj => by simpa using hbefore j hj⟩
  rw [List.find?_map]
  simp only [Function.comp_def, hk, Option.map_some]

end SchemaModels

/-
A free name is always found.

A claim tries the short path, the full path, and the full path with numbers from two on.  The slugs
of the numbered paths are pairwise different, since a slug keeps every digit, and there is one more
of them than there are taken names.  So one of the candidates is free, and the first such one is
claimed: `nameOf_claim_not_mem_taken`.
-/
import SchemaModels.Proofs.Fresh
import SchemaModels.Proofs.Text.Numeral
import SchemaModels.Registry

namespace SchemaModels

/-! ## Slugs of numbered paths -/

theorem slugify_append (s t : String) : slugify (s ++ t) = slugify s ++ slugify t := by
  simp [slugify, String.ofList_append]

theorem slugChar_ofNat_digit : ∀ n < 58, 48 ≤ n → slugChar (Char.ofNat n) = Char.ofNat n := by
  decide

theorem slugChar_of_isDigit {c : Char} (h : c.isDigit = true) : slugChar c = c := by
  obtain ⟨hlow, hhigh⟩ := Char.isDigit_iff_toNat.mp h
  have := slugChar_ofNat_digit c.toNat (Nat.lt_succ_of_le hhigh) hlow
  rwa [Char.ofNat_toNat] at this

theorem slugify_toString (n : Nat) : slugify (toString n) = toString n := by
  have hdigits : (toString n).toList.map slugChar = (toString n).toList := by
    refine (List.map_congr_left fun c hc => ?_).trans (List.map_id _)
    exact slugChar_of_isDigit (isDigit_of_mem_toString hc)
  rw [slugify, hdigits, String.ofList_toList]

namespace Registry

theorem nameOf_append_toString (r : Registry) (path : String) (n : Nat) :
    r.nameOf (path ++ toString n) = r.nameOf path ++ toString n := by
  simp only [nameOf, slugify_append, slugify_toString, String.append_assoc]

theorem nameOf_numbered_injective (r : Registry) (path : String) {m n : Nat}
    (h : r.nameOf (path ++ toString m) = r.nameOf (path ++ toString n)) : m = n := by
  rw [nameOf_append_toString, nameOf_append_toString] at h
  have hlist := congrArg String.toList h
  rw [String.toList_append, String.toList_append] at hlist
  exact toString_nat_injective (String.toList_inj.mp (List.append_cancel_left hlist))

theorem nameOf_numbered_from_two (r : Registry) (path : String) :
    Function.Injective fun k => r.nameOf (path ++ toString (k + 2)) :=
  fun _ _ h => Nat.add_right_cancel (nameOf_numbered_injective r path h)

/-! ## The claim -/

/-- The numbered paths cannot all be taken. -/
theorem exists_candidate_free (r : Registry) (unique full : String) :
    ∃ path ∈ r.candidates unique full, r.nameOf path ∉ r.taken := by
  obtain ⟨k, hk, hfree⟩ := exists_not_mem_of_injective (nameOf_numbered_from_two r full) r.taken
  have hnumbered : full ++ toString (k + 2) ∈
      (List.range (r.taken.length + 1)).map fun k => full ++ toString (k + 2) :=
    List.mem_map.mpr ⟨k, List.mem_range.mpr hk, rfl⟩
  exact ⟨_, List.mem_cons_of_mem _ (List.mem_cons_of_mem _ hnumbered), hfree⟩

theorem find?_candidates_eq_claim (r : Registry) (unique full : String) :
    (r.candidates unique full).find? (fun path => !r.taken.contains (r.nameOf path)) =
      some (r.claim unique full) := by
  obtain ⟨path, hpath, hfree⟩ := exists_candidate_free r unique full
  have hsome : ((r.candidates unique full).find?
      fun path => !r.taken.contains (r.nameOf path)).isSome = true :=
    List.find?_isSome.mpr ⟨path, hpath, by simpa using hfree⟩
  obtain ⟨found, hfound⟩ := Option.isSome_iff_exists.mp hsome
  rw [claim, hfound, Option.getD_some]

theorem nameOf_claim_not_mem_taken (r : Registry) (unique full : String) :
    r.nameOf (r.claim unique full) ∉ r.taken := by
  simpa using List.find?_some (find?_candidates_eq_claim r unique full)

end Registry
end SchemaModels

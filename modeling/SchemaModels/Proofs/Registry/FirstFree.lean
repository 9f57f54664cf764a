/-
A claim takes the first path whose name is free.

What a claim does is given here without a bound: it tries the short path and the full path, and then
a loop counts up from two while the name of the numbered path is taken.  The names of the numbered
paths are pairwise different, so the loop ends before it has counted past the taken names, and what
it ends with is what `claim` gives.
-/
import Mathlib.Order.Bounds.Defs
import SchemaModels.Proofs.Loop
import SchemaModels.Proofs.Registry.Claim

namespace SchemaModels
namespace Registry

open StateTransition

def numberStep (r : Registry) (full : String) (n : Nat) : Option Nat :=
  if r.nameOf (full ++ toString n) ∈ r.taken then some (n + 1) else none

/-- The path that is claimed and its name, if the loop that looks for a number ends. -/
def claimByLoop (r : Registry) (unique full : String) : Part (String × String) :=
  let named := fun path => (path, r.nameOf path)
  if r.nameOf unique ∉ r.taken then Part.some (named unique)
  else if r.nameOf full ∉ r.taken then Part.some (named full)
  else (eval (r.numberStep full) 2).map fun n => named (full ++ toString n)

section

variable {r : Registry} {unique full : String}

theorem claim_of_unique_free (h : r.nameOf unique ∉ r.taken) : r.claim unique full = unique := by
  rw [claim, candidates, List.find?_cons_of_pos (by simpa using h), Option.getD_some]

theorem claim_of_full_free (hunique : r.nameOf unique ∈ r.taken) (h : r.nameOf full ∉ r.taken) :
    r.claim unique full = full := by
  rw [claim, candidates, List.find?_cons_of_neg (by simpa using hunique),
    List.find?_cons_of_pos (by simpa using h), Option.getD_some]

theorem claim_of_taken (hunique : r.nameOf unique ∈ r.taken) (hfull : r.nameOf full ∈ r.taken) :
    ∃ k ≤ r.taken.toFinset.card, r.claim unique full = full ++ toString (k + 2) ∧
      r.nameOf (full ++ toString (k + 2)) ∉ r.taken ∧
      ∀ j < k, r.nameOf (full ++ toString (j + 2)) ∈ r.taken := by
  have hdiffer := nameOf_numbered_from_two r full
  obtain ⟨k, hfound, hfree, hbefore⟩ :=
    exists_first_free r.nameOf (fun k => full ++ toString (k + 2)) hdiffer r.taken
  refine ⟨k, le_card_of_taken hdiffer hbefore, ?_, hfree, hbefore⟩
  rw [claim, candidates, List.find?_cons_of_neg (by simpa using hunique),
    List.find?_cons_of_neg (by simpa using hfull), hfound, Option.getD_some]

theorem eval_numberStep {k : Nat} (hfree : r.nameOf (full ++ toString (k + 2)) ∉ r.taken)
    (hbefore : ∀ j < k, r.nameOf (full ++ toString (j + 2)) ∈ r.taken) :
    eval (r.numberStep full) 2 = Part.some (k + 2) :=
  eval_of_passes (fun j => j + 2) (fun j hj => if_pos (hbefore j hj)) (if_neg hfree)

end

/-- A claim ends, whatever names are taken, and gives a path with a free name: the short path if its
name is free, else the full path if its name is, else the full path with the least number from two
on with which it is.  The numbers up to that one, of which there are `n - 1`, are all that are tried:
at most one more than there are taken names. -/
theorem claim_takes_first_free (r : Registry) (unique full : String) :
    let path := claim r unique full
    claimByLoop r unique full = Part.some (path, r.nameOf path) ∧
      r.nameOf path ∉ r.taken ∧
      r.nameOf path = r.schema ++ "." ++ r.version ++ "." ++ slugify path ∧
      ((r.nameOf unique ∉ r.taken ∧ path = unique) ∨
        (r.nameOf unique ∈ r.taken ∧ r.nameOf full ∉ r.taken ∧ path = full) ∨
        (r.nameOf unique ∈ r.taken ∧ r.nameOf full ∈ r.taken ∧
          ∃ n : Nat, path = full ++ toString n ∧
            IsLeast {n | 2 ≤ n ∧ r.nameOf (full ++ toString n) ∉ r.taken} n ∧
            n - 1 ≤ r.taken.toFinset.card + 1)) := by
  intro path
  have hfree : r.nameOf path ∉ r.taken := nameOf_claim_not_mem_taken r unique full
  by_cases hunique : r.nameOf unique ∈ r.taken
  case neg =>
    have hpath : path = unique := claim_of_unique_free hunique
    refine ⟨?_, hfree, rfl, Or.inl ⟨hunique, hpath⟩⟩
    rw [claimByLoop, if_pos hunique, hpath]
  by_cases hfull : r.nameOf full ∈ r.taken
  case neg =>
    have hpath : path = full := claim_of_full_free hunique hfull
    refine ⟨?_, hfree, rfl, Or.inr (Or.inl ⟨hunique, hfull, hpath⟩)⟩
    rw [claimByLoop, if_neg (not_not.mpr hunique), if_pos hfull, hpath]
  obtain ⟨k, hk, hpath, hnumber, hbefore⟩ := claim_of_taken hunique hfull
  refine ⟨?_, hfree, rfl, Or.inr (Or.inr ⟨hunique, hfull, k + 2, hpath, ⟨?_, ?_⟩, ?_⟩)⟩
  · rw [claimByLoop, if_neg (not_not.mpr hunique), if_neg (not_not.mpr hfull),
      eval_numberStep hnumber hbefore, Part.map_some]
    rw [← hpath]
  · exact ⟨Nat.le_add_left 2 k, hnumber⟩
  · rintro n ⟨htwo, hn⟩
    by_contra hless
    obtain ⟨j, rfl⟩ := Nat.exists_eq_add_of_le' htwo
    exact hn (hbefore j (by omega))
  · omega

end Registry
end SchemaModels

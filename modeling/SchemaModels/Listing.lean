/-
Lists by key: what was filed under each key, in order.
-/

namespace SchemaModels

/-- What was filed under each key, the keys in the order in which they are first met. -/
abbrev Listing (κ α : Type) := List (κ × List α)

namespace Listing

variable {κ α : Type} [DecidableEq κ]

def under (listing : Listing κ α) (key : κ) : List α := (listing.lookup key).getD []

def file (key : κ) (value : α) : Listing κ α → Listing κ α
  | [] => [(key, [value])]
  | (k, values) :: rest =>
    if k = key then (k, values ++ [value]) :: rest else (k, values) :: file key value rest

theorem under_file (listing : Listing κ α) (key : κ) (value : α) (k : κ) :
    (file key value listing).under k =
      if k = key then listing.under key ++ [value] else listing.under k := by
  induction listing with
  | nil =>
    by_cases h : k = key
    · simp [file, under, h]
    · simp [file, under, List.lookup_cons, h, beq_eq_false_iff_ne.mpr h]
  | cons entry rest ih =>
    obtain ⟨first, values⟩ := entry
    rw [file]
    by_cases hfirst : first = key
    · subst hfirst
      by_cases h : k = first
      · simp [under, h]
      · simp [under, List.lookup_cons, h, beq_eq_false_iff_ne.mpr h]
    · rw [if_neg hfirst]
      simp only [under, List.lookup_cons] at ih ⊢
      by_cases h : k = first
      · simp [h, hfirst]
      · rw [beq_eq_false_iff_ne.mpr h, beq_eq_false_iff_ne.mpr (Ne.symm hfirst)]
        exact ih

end Listing

end SchemaModels

/-
Labels that are used already give way to others.

A numbered name ends in its number between parentheses, however short the name before it is cut, so
different numbers give different texts, and one more of them than there are used labels are not all
used.  The label that is taken in the end is new, whatever was used before.
-/
import SchemaModels.Label
import SchemaModels.Proofs.Fresh
import SchemaModels.Proofs.Text.Numeral

namespace SchemaModels
namespace Label

open Text

/-! ## Numbered names -/

def digitsAtEnd (s : List Char) : List Char := (s.reverse.drop 1).takeWhile Char.isDigit

theorem digitsAtEnd_numbered (name : String) (maxLength n : Nat) :
    digitsAtEnd (numbered name maxLength n).toList = (toString n).toList.reverse := by
  have hdigits : ∀ c ∈ (toString n).toList.reverse, c.isDigit = true := fun c hc =>
    isDigit_of_mem_toString (List.mem_reverse.mp hc)
  let base := trimEnd (name.toList.take (maxLength - (" (" ++ toString n ++ ")").length))
  have hend : (numbered name maxLength n).toList.reverse =
      ')' :: ((toString n).toList.reverse ++ '(' :: ' ' :: base.reverse) := by
    simp [numbered, base]
  rw [digitsAtEnd, hend, List.drop_one, List.tail_cons, List.takeWhile_append_of_pos hdigits,
    List.takeWhile_cons_of_neg (by decide), List.append_nil]

theorem numbered_injective (name : String) (maxLength : Nat) :
    Function.Injective (numbered name maxLength) := by
  intro m n h
  have hdigits := congrArg (fun s => digitsAtEnd s.toList) h
  simp only [digitsAtEnd_numbered] at hdigits
  exact toString_nat_injective (String.toList_inj.mp (List.reverse_injective hdigits))

theorem numbered_from_two_injective (name : String) (maxLength : Nat) :
    Function.Injective fun k => numbered name maxLength (k + 2) :=
  fun _ _ h => Nat.add_right_cancel (numbered_injective name maxLength h)

theorem firstFree_eq (used : List String) (name : String) (maxLength : Nat) :
    ∃ k, firstFree used name maxLength = numbered name maxLength (k + 2) ∧
      numbered name maxLength (k + 2) ∉ used ∧
      ∀ j < k, numbered name maxLength (j + 2) ∈ used := by
  obtain ⟨k, hfound, hfree, hbefore⟩ := exists_first_free id
    (fun k => numbered name maxLength (k + 2)) (numbered_from_two_injective name maxLength) used
  refine ⟨k, ?_, hfree, hbefore⟩
  simp only [id_eq] at hfound
  rw [firstFree, hfound, Option.getD_some]

/-! ## New labels -/

/-- A free text stays; a used one gets the name behind it, and if that is used too, the text is the
name with the first free number. -/
theorem distinguish_cases (used : List String) (name text : String) (maxLength : Nat) :
    (text ∉ used ∧ distinguish used name text maxLength = text) ∨
      (text ∈ used ∧ qualified name text maxLength ∉ used ∧
        distinguish used name text maxLength = qualified name text maxLength) ∨
      (text ∈ used ∧ qualified name text maxLength ∈ used ∧ ∃ k ≤ used.toFinset.card,
        numbered name maxLength (k + 2) ∉ used ∧
        distinguish used name text maxLength = numbered name maxLength (k + 2)) := by
  by_cases htext : text ∈ used
  · by_cases hlong : qualified name text maxLength ∈ used
    · obtain ⟨k, hfound, hfree, hbefore⟩ := firstFree_eq used name maxLength
      have hfew := le_card_of_taken (numbered_from_two_injective name maxLength) hbefore
      refine Or.inr (Or.inr ⟨htext, hlong, k, hfew, hfree, ?_⟩)
      simp [distinguish, htext, hlong, hfound]
    · refine Or.inr (Or.inl ⟨htext, hlong, ?_⟩)
      simp [distinguish, htext, hlong]
  · exact Or.inl ⟨htext, by simp [distinguish, htext]⟩

theorem distinguish_not_mem (used : List String) (name text : String) (maxLength : Nat) :
    distinguish used name text maxLength ∉ used := by
  rcases distinguish_cases used name text maxLength with
    ⟨hfree, hsame⟩ | ⟨-, hfree, hsame⟩ | ⟨-, -, k, -, hfree, hsame⟩
  · rw [hsame]
    exact hfree
  · rw [hsame]
    exact hfree
  · rw [hsame]
    exact hfree

theorem extract_not_mem (options : LabelOptions) (used : List String) (name : String)
    (doc : Option String) : (extract options used name doc).text ∉ used :=
  distinguish_not_mem used name _ options.maxLength

theorem use_of_not_mem {used : List String} {label : Label} (h : label.text ∉ used) :
    use used label = used ++ [label.text] := if_neg (by simpa using h)

end Label
end SchemaModels

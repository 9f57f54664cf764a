/-
A label fits, or it is the attribute name.

A text that is too long gives way to the name at every turn but the last one: a name with a number is
cut so that both fit together, which takes room for the number.  The number is at most two more than
there are used labels, so room for the digits of that one is enough: `length_extract_le`.
-/
import Mathlib.Data.Nat.Digits.Defs
import SchemaModels.Proofs.Label.Loops

namespace SchemaModels

theorem length_toString_le_digits {m n : Nat} (hn : n ≠ 0) (h : m ≤ n) :
    (toString m).length ≤ (Nat.digits 10 n).length := by
  have hpos : 0 < (Nat.digits 10 n).length :=
    List.length_pos_iff.mpr (Nat.digits_ne_nil_iff_ne_zero.mpr hn)
  have hlt := Nat.lt_base_pow_length_digits (b := 10) (m := n) (by omega)
  rw [Nat.toString_eq_ofList_toDigits, String.length_ofList,
    Nat.length_toDigits_le_iff (by omega) hpos]
  omega

namespace Label

open Text

theorem length_numbered_le {name : String} {maxLength n : Nat}
    (h : 3 + (toString n).length ≤ maxLength) : (numbered name maxLength n).length ≤ maxLength := by
  have hsuffix : (" (" ++ toString n ++ ")").length = 3 + (toString n).length := by
    simp only [String.length_append, show " (".length = 2 from rfl, show ")".length = 1 from rfl]
    omega
  have hbase := (trimEnd_prefix_self
    (name.toList.take (maxLength - (" (" ++ toString n ++ ")").length))).length_le
  rw [List.length_take] at hbase
  simp only [numbered, String.length_append _ (" (" ++ toString n ++ ")"), String.length_ofList]
  omega

theorem length_qualified_le (name text : String) (maxLength : Nat) :
    (qualified name text maxLength).length ≤ maxLength ∨ qualified name text maxLength = name := by
  rw [qualified]
  split
  case isTrue hlong => exact Or.inr rfl
  case isFalse hfits => exact Or.inl (by omega)

theorem length_ofDoc_le (options : LabelOptions) (name doc : List Char) :
    (ofDoc options name doc).length ≤ options.maxLength ∨ ofDoc options name doc = name := by
  rw [ofDoc]
  split
  case isTrue hnone => exact Or.inr rfl
  case isFalse hfits => exact Or.inl (by omega)

theorem length_propose_le (options : LabelOptions) (name : String) (doc : Option String) :
    (propose options name doc).text.length ≤ options.maxLength ∨
      (propose options name doc).text = name := by
  cases doc with
  | none => exact Or.inr rfl
  | some doc =>
    by_cases hblank : (trim doc.toList).isEmpty = true
    · exact Or.inr (by simp [propose, hblank])
    · have hfound := length_ofDoc_le options name.toList (cleanDoc options doc.toList)
      simp only [propose, if_neg hblank, String.length_ofList]
      exact hfound.imp_right fun hname => by rw [hname, String.ofList_toList]

/-- A label is found, and where there is room for the number behind a name it fits or is the name. -/
theorem length_extract_le {options : LabelOptions} (hstopwords : options.HasNoBlankStopword)
    {used : List String}
    (hroom : 3 + (Nat.digits 10 (used.toFinset.card + 2)).length ≤ options.maxLength)
    (name : String) (doc : Option String) :
    let label := extract options used name doc
    extractByLoops options used name doc = Part.some label ∧
      (label.text.length ≤ options.maxLength ∨ label.text = name) := by
  intro label
  refine ⟨extractByLoops_eq hstopwords used name doc, ?_⟩
  show (distinguish used name (propose options name doc).text options.maxLength).length ≤ _ ∨
    distinguish used name (propose options name doc).text options.maxLength = name
  rcases distinguish_cases used name (propose options name doc).text options.maxLength with
    ⟨-, hsame⟩ | ⟨-, -, hsame⟩ | ⟨-, -, k, hk, -, hsame⟩
  · rw [hsame]
    exact length_propose_le options name doc
  · rw [hsame]
    exact length_qualified_le name _ options.maxLength
  · rw [hsame]
    have hdigits : (toString (k + 2)).length ≤ (Nat.digits 10 (used.toFinset.card + 2)).length :=
      length_toString_le_digits (by omega) (by omega)
    exact Or.inl (length_numbered_le (by omega))

/-- Room for a number of one digit and for no name before it. -/
theorem number_fits_exactly :
    let options : LabelOptions := ⟨3, 4, ["de"], []⟩
    let used := ["vNF", " (2)"]
    options.HasNoBlankStopword ∧
      3 + (Nat.digits 10 (used.toFinset.card + 2)).length ≤ options.maxLength ∧
      ∃ label, extractByLoops options used "vNF" (some "Valor, em reais") = Part.some label ∧
        label = ⟨" (3)", some "Valor, em reais"⟩ ∧
        (label.text.length ≤ options.maxLength ∨ label.text = "vNF") := by
  intro options used
  have hstopwords : options.HasNoBlankStopword := by decide +kernel
  have hroom : 3 + (Nat.digits 10 (used.toFinset.card + 2)).length ≤ options.maxLength := by
    have hcard : used.toFinset.card = 2 := by decide
    rw [hcard]
    simp [options]
  obtain ⟨hlabel, hlength⟩ := length_extract_le hstopwords hroom "vNF" (some "Valor, em reais")
  exact ⟨hstopwords, hroom, _, hlabel, by decide +kernel, hlength⟩

end Label
end SchemaModels

/-
Documentation that does not become help stands in the label, unless the label is given up.

Whether there is help is settled as soon as a label is found: there is none if the label is the whole
documentation, or all of it but the last character.  Only then is the label compared with the used
ones, and one that is used and has no room for the name behind it, or is used in that form too, is
given up for the name, with a number where need be.  So the documentation is lost only where a label
is given up for which there was no help: `doc_in_label_unless_given_up`.
-/
import SchemaModels.Proofs.Label.Loops

namespace SchemaModels
namespace Label

open Text

/-! ## Help -/

theorem propose_of_doc {doc : String} (hdoc : ∃ c ∈ doc.toList, isBlank c = false)
    (options : LabelOptions) (name : String) :
    propose options name (some doc) =
      let text := cleanDoc options doc.toList
      let found := ofDoc options name.toList text
      ⟨String.ofList found,
        if found ≠ text ∧ text.dropLast ≠ found then some (String.ofList text) else none⟩ :=
  if_neg fun hempty => trim_ne_nil hdoc (List.isEmpty_iff.mp hempty)

/-- The documentation is the help, or the label that is found is all of it, with or without its last
character, and there is no help. -/
theorem help_propose_cases {doc : String} (hdoc : ∃ c ∈ doc.toList, isBlank c = false)
    (options : LabelOptions) (name : String) :
    let found := propose options name (some doc)
    let text := cleanDoc options doc.toList
    found.help = some (String.ofList text) ∨
      found.help = none ∧ (found.text.toList = text ∨ found.text.toList = text.dropLast) := by
  rw [propose_of_doc hdoc]
  intro found text
  show (if _ then some (String.ofList text) else none) = _ ∨ (if _ then _ else none) = none ∧ _
  by_cases hhelp : ofDoc options name.toList text ≠ text ∧
      text.dropLast ≠ ofDoc options name.toList text
  · exact Or.inl (if_pos hhelp)
  · refine Or.inr ⟨if_neg hhelp, ?_⟩
    show (String.ofList (ofDoc options name.toList text)).toList = _ ∨ _
    rw [String.toList_ofList]
    by_cases hwhole : ofDoc options name.toList text = text
    · exact Or.inl hwhole
    · exact Or.inr (by_contra fun hlast => hhelp ⟨hwhole, Ne.symm hlast⟩)

/-! ## Labels that are given up -/

/-- The text is used, and with the name behind it it is too long or used as well. -/
def IsGivenUp (used : List String) (name text : String) (maxLength : Nat) : Prop :=
  text ∈ used ∧ (maxLength < (text ++ " (" ++ name ++ ")").length ∨
    text ++ " (" ++ name ++ ")" ∈ used)

theorem qualified_of_not_isGivenUp {used : List String} {name text : String} {maxLength : Nat}
    (htext : text ∈ used) (h : ¬IsGivenUp used name text maxLength) :
    qualified name text maxLength = text ++ " (" ++ name ++ ")" ∧
      qualified name text maxLength ∉ used := by
  have hkept : ¬(maxLength < (text ++ " (" ++ name ++ ")").length ∨
      text ++ " (" ++ name ++ ")" ∈ used) := fun hlost => h ⟨htext, hlost⟩
  obtain ⟨hfits, hfree⟩ := not_or.mp hkept
  have hlong : qualified name text maxLength = text ++ " (" ++ name ++ ")" := if_neg hfits
  exact ⟨hlong, hlong ▸ hfree⟩

theorem prefix_distinguish {used : List String} {name text : String} {maxLength : Nat}
    (h : ¬IsGivenUp used name text maxLength) :
    text.toList <+: (distinguish used name text maxLength).toList := by
  rcases distinguish_cases used name text maxLength with
    ⟨-, hsame⟩ | ⟨htext, -, hsame⟩ | ⟨htext, hused, -⟩
  · rw [hsame]
  · rw [hsame, (qualified_of_not_isGivenUp htext h).1]
    simp [List.append_assoc]
  · exact absurd hused (qualified_of_not_isGivenUp htext h).2

theorem distinguish_of_isGivenUp {used : List String} {name text : String} {maxLength : Nat}
    (h : IsGivenUp used name text maxLength) :
    distinguish used name text maxLength = name ∨
      ∃ n, distinguish used name text maxLength = numbered name maxLength n := by
  obtain ⟨htext, hlost⟩ := h
  rcases distinguish_cases used name text maxLength with
    ⟨hnew, -⟩ | ⟨-, hfree, hsame⟩ | ⟨-, -, k, -, -, hsame⟩
  · exact absurd htext hnew
  · rw [qualified] at hfree hsame
    by_cases hlong : maxLength < (text ++ " (" ++ name ++ ")").length
    · exact Or.inl (hsame.trans (if_pos hlong))
    · rw [if_neg hlong] at hfree
      exact absurd (hlost.resolve_left hlong) hfree
  · exact Or.inr ⟨k + 2, hsame⟩

/-- A label that is found for a documentation text has the text as help, or it has none and begins
with the text, at least without its last character, unless it is given up.  One that is given up is
the name, alone or with a number. -/
theorem doc_in_label_unless_given_up {options : LabelOptions}
    (hstopwords : options.HasNoBlankStopword) {doc : String}
    (hdoc : ∃ c ∈ doc.toList, isBlank c = false) (used : List String) (name : String) :
    let label := extract options used name (some doc)
    let found := (propose options name (some doc)).text
    let text := cleanDoc options doc.toList
    extractByLoops options used name (some doc) = Part.some label ∧
      (label.help = some (String.ofList text) ∨
        label.help = none ∧ (found.toList = text ∨ found.toList = text.dropLast)) ∧
      (label.help = none → ¬IsGivenUp used name found options.maxLength →
        text <+: label.text.toList ∨ text.dropLast <+: label.text.toList) ∧
      (IsGivenUp used name found options.maxLength →
        label.text = name ∨ ∃ n, label.text = numbered name options.maxLength n) := by
  intro label found text
  have hhelp : label.help = some (String.ofList text) ∨
      label.help = none ∧ (found.toList = text ∨ found.toList = text.dropLast) :=
    help_propose_cases hdoc options name
  refine ⟨extractByLoops_eq hstopwords used name (some doc), hhelp, fun hnone hkept => ?_,
    distinguish_of_isGivenUp⟩
  have hbegins : found.toList <+: label.text.toList := prefix_distinguish hkept
  rcases hhelp with hsome | ⟨-, hwhole | hlast⟩
  · exact absurd (hsome.symm.trans hnone) (by simp)
  · exact Or.inl (hwhole ▸ hbegins)
  · exact Or.inr (hlast ▸ hbegins)

/-- A label that is used already is given up for want of room behind it, and one whose longer form is
used too for a number.  Neither of them had help, so nothing is left of the documentation. -/
theorem labels_given_up_without_help :
    let options := ({} : Config).labels.options
    let long := "valorTotalDosTributosFederais"
    options.HasNoBlankStopword ∧
      (∃ c ∈ "Valor total".toList, isBlank c = false) ∧
      extract options ["Valor total"] "vTot" (some "Valor total") = ⟨"Valor total (vTot)", none⟩ ∧
      extract options ["Valor total"] long (some "Valor total") = ⟨long, none⟩ ∧
      IsGivenUp ["Valor total"] long "Valor total" options.maxLength ∧
      extract options ["Valor total", "Valor total (vTot)"] "vTot" (some "Valor total") =
        ⟨"vTot (2)", none⟩ ∧
      IsGivenUp ["Valor total", "Valor total (vTot)"] "vTot" "Valor total" options.maxLength ∧
      ∀ text ∈ [long, "vTot (2)"], ¬"Valor tota".toList <+: text.toList := by
  intro options long
  have hstopwords : options.HasNoBlankStopword :=
    LabelSettings.hasNoBlankStopword_options fun _ hword => absurd hword List.not_mem_nil
  have hdoc : ∃ c ∈ "Valor total".toList, isBlank c = false :=
    exists_not_blank_iff.mpr (by decide +kernel)
  obtain ⟨htext, hfound, hfound', hkept, hlong, hnumber⟩ :
      cleanDoc options "Valor total".toList = "Valor total".toList ∧
      (propose options "vTot" (some "Valor total")).text = "Valor total" ∧
      (propose options long (some "Valor total")).text = "Valor total" ∧
      extract options ["Valor total"] "vTot" (some "Valor total") = ⟨"Valor total (vTot)", none⟩ ∧
      extract options ["Valor total"] long (some "Valor total") = ⟨long, none⟩ ∧
      extract options ["Valor total", "Valor total (vTot)"] "vTot" (some "Valor total") =
        ⟨"vTot (2)", none⟩ := by
    decide +kernel
  -- Without help a label that does not begin with the documentation is given up.
  have hgiven : ∀ used name text, (propose options name (some "Valor total")).text = "Valor total" →
      extract options used name (some "Valor total") = ⟨text, none⟩ →
      ¬"Valor tota".toList <+: text.toList →
      IsGivenUp used name "Valor total" options.maxLength := by
    intro used name text hfound hlabel hbegins
    by_contra hkept
    obtain ⟨-, -, hin, -⟩ := doc_in_label_unless_given_up hstopwords hdoc used name
    rw [hfound, htext, hlabel] at hin
    rcases hin rfl hkept with hwhole | hlast
    · exact hbegins ((List.dropLast_prefix _).trans hwhole)
    · exact hbegins hlast
  have hlost : ∀ text ∈ [long, "vTot (2)"], ¬"Valor tota".toList <+: text.toList := by decide
  exact ⟨hstopwords, hdoc, hkept, hlong, hgiven _ _ _ hfound' hlong (hlost long (by simp)), hnumber,
    hgiven _ _ _ hfound hnumber (hlost _ (by simp)), hlost⟩

end Label
end SchemaModels

/-
Labels that are never found.

A blank stopword leaves an empty end, and every text closes with that.  Dropping it takes nothing
away, so there is always another pass: a label that is looked for in a documentation text is never
found.  Without such a text there is nothing to close, and the label is the attribute name.
-/
import SchemaModels.Proofs.Label.Loops

namespace SchemaModels

open StateTransition Text

/-- There is no documentation, or nothing but white space. -/
def Label.isUndocumented (doc : Option String) : Bool :=
  doc.all fun text => (trim text.toList).isEmpty

/-- The loops that look for a label come to an end. -/
def LabelOptions.EndsOn (options : LabelOptions) (doc : Option String) : Prop :=
  options.HasNoBlankStopword ∨ Label.isUndocumented doc = true

instance (options : LabelOptions) (doc : Option String) : Decidable (options.EndsOn doc) :=
  inferInstanceAs (Decidable (_ ∨ _))

namespace Label

theorem nil_mem_danglingEnds {options : LabelOptions} (h : ¬ options.HasNoBlankStopword) :
    [] ∈ danglingEnds (stopwordTokens options.stopwords) := by
  obtain ⟨word, hword, hblank⟩ : ∃ word ∈ options.stopwords, ∀ c ∈ word.toList, isBlank c = true := by
    simpa [LabelOptions.HasNoBlankStopword] using h
  have htoken : [' '] ++ word.toList ++ [' '] ∈ stopwordTokens options.stopwords :=
    List.mem_map_of_mem hword
  refine List.mem_map.mpr ⟨_, List.mem_append_right _ htoken, trimEnd_eq_nil_iff.mpr ?_⟩
  have hspace : isBlank ' ' = true := by decide
  intro c hc
  simp only [List.mem_append, List.mem_singleton] at hc
  rcases hc with (rfl | hc) | rfl
  · exact hspace
  · exact hblank c hc
  · exact hspace

theorem danglingStep_ne_none {ends : List (List Char)} (h : [] ∈ ends) (s : List Char) :
    danglingStep ends s ≠ none := by
  have hfound : (ends.find? fun e => endsWith e s).isSome = true :=
    List.find?_isSome.mpr ⟨[], h, endsWith_iff.mpr (List.nil_suffix)⟩
  obtain ⟨e, he⟩ := Option.isSome_iff_exists.mp hfound
  have hend : endsWith e s = true := List.find?_some (p := fun e => endsWith e s) he
  obtain ⟨head, hhead⟩ := Option.isSome_iff_exists.mp hend
  simp [danglingStep, he, hhead]

theorem progressiveCutByLoops_eq_none {options : LabelOptions}
    (h : ¬ options.HasNoBlankStopword) (s : List Char) :
    progressiveCutByLoops options s = Part.none := by
  simp only [progressiveCutByLoops, eval_fitStep _ (stopwordTokens_ne_nil options.stopwords),
    Part.bind_eq_bind, Part.bind_some]
  exact eval_eq_none (danglingStep_ne_none (nil_mem_danglingEnds h)) _

theorem extractByLoops_eq_none {options : LabelOptions} (h : ¬ options.HasNoBlankStopword)
    {doc : Option String} (hdoc : isUndocumented doc = false) (used : List String) (name : String) :
    extractByLoops options used name doc = Part.none := by
  cases doc with
  | none => exact absurd hdoc (by decide)
  | some text =>
    have htext : ¬ (trim text.toList).isEmpty = true := by
      simpa [isUndocumented] using hdoc
    simp only [extractByLoops, proposeByLoops, if_neg htext, ofDocByLoops,
      aggressiveCutByLoops_eq, progressiveCutByLoops_eq_none h, Part.bind_eq_bind, Part.bind_some,
      Part.bind_none]

theorem extractByLoops_of_undocumented {doc : Option String} (hdoc : isUndocumented doc = true)
    (options : LabelOptions) (used : List String) (name : String) :
    extractByLoops options used name doc = Part.some (extract options used name doc) := by
  have hpropose : proposeByLoops options name doc = Part.some (propose options name doc) := by
    cases doc with
    | none => rfl
    | some text =>
      have htext : (trim text.toList).isEmpty = true := hdoc
      simp [proposeByLoops, propose, htext]
  simp only [extractByLoops, hpropose, distinguishByLoops_eq, Part.bind_eq_bind, Part.bind_some]
  rfl

/-- A label is found unless it is looked for in a documentation text with a blank stopword. -/
theorem extractByLoops_endsIf (options : LabelOptions) (used : List String) (name : String)
    (doc : Option String) :
    extractByLoops options used name doc =
      endsIf (options.EndsOn doc) (extract options used name doc) := by
  by_cases hwords : options.HasNoBlankStopword
  · have hends : options.EndsOn doc := Or.inl hwords
    rw [endsIf_of hends, extractByLoops_eq hwords]
  cases hdoc : isUndocumented doc with
  | true =>
    have hends : options.EndsOn doc := Or.inr hdoc
    rw [endsIf_of hends, extractByLoops_of_undocumented hdoc]
  | false =>
    have hnever : ¬ options.EndsOn doc := not_or.mpr ⟨hwords, by simp [hdoc]⟩
    rw [endsIf_of_not hnever, extractByLoops_eq_none hwords hdoc]

end Label
end SchemaModels

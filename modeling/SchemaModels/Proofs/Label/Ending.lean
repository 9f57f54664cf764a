/-
How labels end.

The loop that drops dangling ends stops where there is none left, so a text that was cut to a label
ends neither with a strong punctuation mark nor with a stopword.  A parenthesis that is never closed
is dropped after that, and what stands before it is not looked at again.  So a label dangles just if
it was cut at such a parenthesis and what stands before that dangles: `dangles_extract_iff`.
-/
import SchemaModels.Proofs.Label.Loops
import SchemaModels.Proofs.Text.Words

namespace SchemaModels

open StateTransition

namespace Label

open Text

/-! ## Dangling ends -/

/-- The text ends with a strong punctuation mark or a stopword behind a space, the white space at the
end of either left out. -/
def Dangles (options : LabelOptions) (text : List Char) : Prop :=
  (∃ mark ∈ strongPunctuation, trimEnd mark.toList <:+ text) ∨
    ∃ word ∈ options.stopwords, ' ' :: trimEnd word.toList <:+ text

theorem trimEnd_stopwordToken {word : String} (h : ∃ c ∈ word.toList, isBlank c = false) :
    trimEnd ([' '] ++ word.toList ++ [' ']) = ' ' :: trimEnd word.toList := by
  rw [trimEnd_concat isBlank_space, List.singleton_append, trimEnd_cons h]

theorem dangles_iff {options : LabelOptions} (hstopwords : options.HasNoBlankStopword)
    {text : List Char} :
    Dangles options text ↔ ∃ e ∈ danglingEnds (stopwordTokens options.stopwords), e <:+ text := by
  simp only [danglingEnds, stopwordTokens, List.map_append, List.map_map, List.mem_append,
    List.mem_map, Function.comp_apply]
  constructor
  · rintro (⟨mark, hmark, hend⟩ | ⟨word, hword, hend⟩)
    · exact ⟨_, Or.inl ⟨mark, hmark, rfl⟩, hend⟩
    · exact ⟨_, Or.inr ⟨word, hword, trimEnd_stopwordToken (hstopwords word hword)⟩, hend⟩
  · rintro ⟨e, ⟨mark, hmark, rfl⟩ | ⟨word, hword, rfl⟩, hend⟩
    · exact Or.inl ⟨mark, hmark, hend⟩
    · rw [trimEnd_stopwordToken (hstopwords word hword)] at hend
      exact Or.inr ⟨word, hword, hend⟩

theorem danglingStep_eq_none_iff {ends : List (List Char)} {s : List Char} :
    danglingStep ends s = none ↔ ∀ e ∈ ends, ¬e <:+ s := by
  simp only [← endsWith_iff]
  cases hfound : ends.find? fun e => endsWith e s with
  | none =>
    have hnone := List.find?_eq_none.mp hfound
    simp only [danglingStep, hfound, Option.bind_none, true_iff]
    exact hnone
  | some e =>
    have hend : endsWith e s = true := List.find?_some (p := fun e => endsWith e s) hfound
    obtain ⟨head, hhead⟩ := Option.isSome_iff_exists.mp hend
    have hmem := List.mem_of_find?_eq_some hfound
    simp only [danglingStep, hfound, Option.bind_some, hhead, Option.map_some, reduceCtorEq,
      false_iff]
    exact fun hnone => hnone e hmem hend

theorem not_dangles_progressiveCut {options : LabelOptions}
    (hstopwords : options.HasNoBlankStopword) (s : List Char) :
    ¬Dangles options (progressiveCut options s) := by
  rw [dangles_iff hstopwords]
  rintro ⟨e, he, hend⟩
  obtain ⟨-, hstop⟩ := reaches_of_eval (eval_danglingStep (danglingEnds_ne_nil hstopwords)
    (cutToFit options.maxLength (stopwordTokens options.stopwords) s))
  exact danglingStep_eq_none_iff.mp hstop e he hend

/-! ## Parentheses that are never closed -/

def IsOpen (s : List Char) : Prop := '(' ∈ s ∧ ')' ∉ s

/-- The beginning of a documentation text, cut to a label, before its parentheses are looked at. -/
def closedCut (options : LabelOptions) (doc : String) : List Char :=
  progressiveCut options (aggressiveCut options.minLength (cleanDoc options doc.toList))

theorem dropOpenParenthesis_of_isOpen {s : List Char} (h : IsOpen s) :
    dropOpenParenthesis s = trim (s.takeWhile (· ≠ '(')) := if_pos (by simpa [IsOpen] using h)

theorem dropOpenParenthesis_of_not_isOpen {s : List Char} (h : ¬IsOpen s) :
    dropOpenParenthesis s = s := if_neg (by simpa [IsOpen] using h)

/-- A label that is not the name is what is left of a documentation text. -/
theorem propose_of_ne_name {options : LabelOptions} {name : String} {doc : Option String}
    (h : (propose options name doc).text ≠ name) :
    ∃ text, doc = some text ∧
      (propose options name doc).text.toList = dropOpenParenthesis (closedCut options text) := by
  cases doc with
  | none => exact absurd rfl h
  | some text =>
    refine ⟨text, rfl, ?_⟩
    by_cases hblank : (trim text.toList).isEmpty = true
    · exact absurd (by simp [propose, hblank]) h
    · simp only [propose, if_neg hblank, ofDoc, String.toList_ofList, closedCut] at h ⊢
      split at h
      case isTrue hnone => exact absurd String.ofList_toList h
      case isFalse hsome => rw [if_neg hsome]

/-- Where no label is used yet and the one that is found is not the name, it is a text that does not
dangle or, if a parenthesis in that is never closed, what stands before the parenthesis.  So it
dangles just if this does. -/
theorem dangles_extract_iff {options : LabelOptions} (hstopwords : options.HasNoBlankStopword)
    {name : String} {doc : Option String} (hname : (extract options [] name doc).text ≠ name) :
    ∃ text, doc = some text ∧
      let label := extract options [] name doc
      let cut := closedCut options text
      extractByLoops options [] name doc = Part.some label ∧
        ¬Dangles options cut ∧
        (¬IsOpen cut → label.text.toList = cut) ∧
        (IsOpen cut → label.text.toList = trim (cut.takeWhile (· ≠ '('))) ∧
        (Dangles options label.text.toList ↔
          IsOpen cut ∧ Dangles options (trim (cut.takeWhile (· ≠ '(')))) := by
  have hsame : (extract options [] name doc).text = (propose options name doc).text := rfl
  obtain ⟨text, hdoc, hcut⟩ := propose_of_ne_name (hsame ▸ hname)
  have hclosed : ¬Dangles options (closedCut options text) :=
    not_dangles_progressiveCut hstopwords _
  refine ⟨text, hdoc, extractByLoops_eq hstopwords [] name doc, hclosed, ?_⟩
  rw [hsame, hcut]
  by_cases hopen : IsOpen (closedCut options text)
  · rw [dropOpenParenthesis_of_isOpen hopen]
    simp [hopen]
  · rw [dropOpenParenthesis_of_not_isOpen hopen]
    simpa [hopen] using hclosed

/-- A stopword and a comma before a parenthesis that is never closed. -/
theorem open_parenthesis_leaves_dangling_end :
    let options := ({} : Config).labels.options
    options.HasNoBlankStopword ∧
      (extract options [] "cUF" (some "Código de (tabela do IBGE")).text = "Código de" ∧
      Dangles options "Código de".toList ∧
      (extract options [] "vDesc" (some "Valor, (ver tabela")).text = "Valor," ∧
      Dangles options "Valor,".toList := by
  intro options
  have hstopwords : options.HasNoBlankStopword :=
    LabelSettings.hasNoBlankStopword_options fun _ hword => absurd hword List.not_mem_nil
  have hdangles : ∀ name doc label cut, closedCut options doc = cut →
      (extract options [] name (some doc)).text = label → label ≠ name → IsOpen cut →
      Dangles options (trim (cut.takeWhile (· ≠ '('))) → Dangles options label.toList := by
    rintro name doc label cut rfl rfl hname hopen hbefore
    obtain ⟨text, hdoc, -, -, -, -, hiff⟩ := dangles_extract_iff hstopwords hname
    obtain rfl : doc = text := Option.some.inj hdoc
    exact hiff.mpr ⟨hopen, hbefore⟩
  obtain ⟨hcut, hword, hcut', hmark⟩ :
      closedCut options "Código de (tabela do IBGE" = "Código de (tabela do IBGE".toList ∧
      (extract options [] "cUF" (some "Código de (tabela do IBGE")).text = "Código de" ∧
      closedCut options "Valor, (ver tabela" = "Valor, (ver tabela".toList ∧
      (extract options [] "vDesc" (some "Valor, (ver tabela")).text = "Valor," := by
    decide +kernel
  have hde : Dangles options (trim ("Código de (tabela do IBGE".toList.takeWhile (· ≠ '('))) :=
    Or.inr ⟨"de", by decide +kernel, by decide +kernel⟩
  have hcomma : Dangles options (trim ("Valor, (ver tabela".toList.takeWhile (· ≠ '('))) :=
    Or.inl ⟨",", by decide, by decide +kernel⟩
  exact ⟨hstopwords, hword,
    hdangles _ _ _ _ hcut hword (by decide) ⟨by decide, by decide⟩ hde, hmark,
    hdangles _ _ _ _ hcut' hmark (by decide) ⟨by decide, by decide⟩ hcomma⟩

end Label
end SchemaModels

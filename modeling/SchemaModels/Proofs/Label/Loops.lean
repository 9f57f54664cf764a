/-
The loops that cut and number labels come to an end.

Each loop is given here as its step, which knows no bound, so `extractByLoops` has a value just if
all loops on its way end.  The cuts end because every pass takes something away: a token is never
empty, and neither is the end of a stopword, blank ones apart.  The numbers end at the first name
that is not used.  `extractByLoops_eq` puts this together: a label is always found, and it is the
one that `extract` gives.
-/
import SchemaModels.Config
import SchemaModels.Proofs.Label.Numbering
import SchemaModels.Proofs.Loop
import SchemaModels.Proofs.Text.Split

namespace SchemaModels

open StateTransition

/-- No stopword consists of white space only. -/
def LabelOptions.HasNoBlankStopword (options : LabelOptions) : Prop :=
  ∀ word ∈ options.stopwords, ∃ c ∈ word.toList, Text.isBlank c = false

instance (options : LabelOptions) : Decidable options.HasNoBlankStopword :=
  decidable_of_iff
    (∀ word ∈ options.stopwords, (word.toList.any fun c => !Text.isBlank c) = true) <| by
      simp only [LabelOptions.HasNoBlankStopword, Text.exists_not_blank_iff]

theorem LabelLanguage.exists_not_blank (language : LabelLanguage) :
    ∀ word ∈ language.stopwords, ∃ c ∈ word.toList, Text.isBlank c = false := by
  simp only [Text.exists_not_blank_iff]
  cases language with
  | portuguese => decide +kernel
  | english => decide +kernel

/-- Only a configuration can bring a blank stopword. -/
theorem LabelSettings.hasNoBlankStopword_options {settings : LabelSettings}
    (h : ∀ word ∈ settings.stopwords, ∃ c ∈ word.toList, Text.isBlank c = false) :
    settings.options.HasNoBlankStopword := by
  intro word hword
  rcases List.mem_append.mp hword with hword | hword
  · exact settings.language.exists_not_blank word hword
  · exact h word hword

namespace Label

open Text

/-! ## Cutting at punctuation -/

/-- One cut at the last occurrence of a token, unless the text is short enough. -/
def tokenStep (minLength : Nat) (token s : List Char) : Option (List Char) :=
  if minLength < s.length then (splitLast? token s).map Prod.fst else none

def aggressiveCutByLoops (minLength : Nat) (doc : List Char) : Part (List Char) :=
  strongPunctuation.foldlM (fun s token => eval (tokenStep minLength token.toList) s)
    (joinWith [' '] (words (firstLine doc)))

theorem eval_tokenStep (minLength : Nat) {token : List Char} (htoken : token ≠ [])
    (s : List Char) :
    eval (tokenStep minLength token) s = Part.some (cutAtToken minLength token s) := by
  refine eval_eq_some List.length (fun s hstop => ?stop) (fun s t hpass => ?pass) s
  case stop =>
    rw [cutAtToken]
    by_cases hlong : minLength < s.length
    · rw [tokenStep, if_pos hlong, Option.map_eq_none_iff] at hstop
      rw [if_pos hlong, hstop]
    · rw [if_neg hlong]
  case pass =>
    by_cases hlong : minLength < s.length
    · rw [tokenStep, if_pos hlong, Option.map_eq_some_iff] at hpass
      obtain ⟨⟨head, tail⟩, hsplit, rfl⟩ := hpass
      have hshorter := length_lt_of_splitLast? htoken hsplit
      refine ⟨hshorter, ?_⟩
      rw [cutAtToken, if_pos hlong, hsplit]
      exact if_pos hshorter
    · rw [tokenStep, if_neg hlong] at hpass
      exact absurd hpass (by simp)

theorem foldlM_eq_some {α β : Type} {pass : β → α → Part β} {final : β → α → β} {items : List α}
    (h : ∀ a ∈ items, ∀ b, pass b a = Part.some (final b a)) (b : β) :
    items.foldlM pass b = Part.some (items.foldl final b) := by
  induction items generalizing b with
  | nil => rfl
  | cons a rest ih =>
    rw [List.foldlM_cons, h a List.mem_cons_self, Part.bind_eq_bind, Part.bind_some,
      ih fun c hc => h c (List.mem_cons_of_mem a hc), List.foldl_cons]

theorem aggressiveCutByLoops_eq (minLength : Nat) (doc : List Char) :
    aggressiveCutByLoops minLength doc = Part.some (aggressiveCut minLength doc) := by
  have htokens : ∀ token ∈ strongPunctuation, token.toList ≠ [] := by decide
  exact foldlM_eq_some (fun token htoken s => eval_tokenStep minLength (htokens token htoken) s) _

/-! ## Cutting at stopwords -/

/-- One cut before the rightmost token that something stands before, unless the text fits. -/
def fitStep (maxLength : Nat) (tokens : List (List Char)) (s : List Char) : Option (List Char) :=
  if maxLength < s.length ∧ longestHead tokens s ≠ [] then some (longestHead tokens s) else none

/-- One dangling end dropped with the white space before it. -/
def danglingStep (ends : List (List Char)) (s : List Char) : Option (List Char) :=
  (ends.find? fun e => endsWith e s).bind fun e => (before? e s).map trimEnd

def progressiveCutByLoops (options : LabelOptions) (s : List Char) : Part (List Char) := do
  let tokens := stopwordTokens options.stopwords
  let fitting ← eval (fitStep options.maxLength tokens) s
  eval (danglingStep (danglingEnds tokens)) fitting

theorem stopwordTokens_ne_nil (stopwords : List String) :
    ∀ token ∈ stopwordTokens stopwords, token ≠ [] := by
  intro token htoken
  obtain ⟨word, -, rfl⟩ := List.mem_map.mp htoken
  simp

theorem longestHead_cases (tokens : List (List Char)) (s : List Char) :
    longestHead tokens s = [] ∨
      ∃ token ∈ tokens, ∃ tail, splitLast? token s = some (longestHead tokens s, tail) := by
  refine List.foldlRecOn (motive := fun best => best = [] ∨
    ∃ token ∈ tokens, ∃ tail, splitLast? token s = some (best, tail)) tokens _ (Or.inl rfl) ?_
  intro best hbest token htoken
  cases hsplit : splitLast? token s with
  | none => exact hbest
  | some parts =>
    obtain ⟨head, tail⟩ := parts
    by_cases hlonger : best.length < head.length
    · simp only [if_pos hlonger]
      exact Or.inr ⟨token, htoken, tail, hsplit⟩
    · simp only [if_neg hlonger]
      exact hbest

theorem eval_fitStep (maxLength : Nat) {tokens : List (List Char)}
    (htokens : ∀ token ∈ tokens, token ≠ []) (s : List Char) :
    eval (fitStep maxLength tokens) s = Part.some (cutToFit maxLength tokens s) := by
  refine eval_eq_some List.length (fun s hstop => ?stop) (fun s t hpass => ?pass) s
  case stop =>
    rw [cutToFit]
    by_cases hlong : maxLength < s.length
    · have hnothing : longestHead tokens s = [] := by
        by_contra hsome
        simp [fitStep, hlong, hsome] at hstop
      simp [hlong, hnothing]
    · rw [if_neg hlong]
  case pass =>
    obtain ⟨⟨hlong, hsome⟩, rfl⟩ : (maxLength < s.length ∧ longestHead tokens s ≠ []) ∧
        longestHead tokens s = t := by
      simpa [fitStep] using hpass
    have hshorter : (longestHead tokens s).length < s.length := by
      rcases longestHead_cases tokens s with hnothing | ⟨token, htoken, tail, hsplit⟩
      · exact absurd hnothing hsome
      · exact length_lt_of_splitLast? (htokens token htoken) hsplit
    refine ⟨hshorter, ?_⟩
    rw [cutToFit, if_pos hlong]
    simp [hsome, hshorter]

theorem eval_danglingStep {ends : List (List Char)} (hends : ∀ e ∈ ends, e ≠ [])
    (s : List Char) : eval (danglingStep ends) s = Part.some (dropDangling ends s) := by
  refine eval_eq_some List.length (fun s hstop => ?stop) (fun s t hpass => ?pass) s
  case stop =>
    rw [dropDangling]
    cases hfound : ends.find? fun e => endsWith e s with
    | none => rfl
    | some e =>
      have hend : endsWith e s = true := List.find?_some (p := fun e => endsWith e s) hfound
      obtain ⟨head, hhead⟩ := Option.isSome_iff_exists.mp hend
      simp [danglingStep, hfound, hhead] at hstop
  case pass =>
    obtain ⟨e, hfound, hcut⟩ := Option.bind_eq_some_iff.mp hpass
    obtain ⟨head, hhead, rfl⟩ := Option.map_eq_some_iff.mp hcut
    have hshorter : (trimEnd head).length < s.length := by
      have hwhole := congrArg List.length (before?_eq_some_iff.mp hhead)
      have htrim := (trimEnd_prefix_self head).length_le
      have hsome := List.length_pos_iff.mpr (hends e (List.mem_of_find?_eq_some hfound))
      rw [List.length_append] at hwhole
      omega
    refine ⟨hshorter, ?_⟩
    rw [dropDangling, hfound]
    simp only [hhead]
    exact if_pos hshorter

theorem danglingEnds_ne_nil {options : LabelOptions} (h : options.HasNoBlankStopword) :
    ∀ e ∈ danglingEnds (stopwordTokens options.stopwords), e ≠ [] := by
  have hpunctuation : ∀ mark ∈ strongPunctuation, ∃ c ∈ mark.toList, isBlank c = false := by
    simp only [exists_not_blank_iff]
    decide
  have hmark : ∀ token ∈ strongPunctuation.map String.toList ++ stopwordTokens options.stopwords,
      ∃ c ∈ token, isBlank c = false := by
    intro token htoken
    rcases List.mem_append.mp htoken with htoken | htoken
    · obtain ⟨mark, hmark, rfl⟩ := List.mem_map.mp htoken
      exact hpunctuation mark hmark
    · obtain ⟨word, hword, rfl⟩ := List.mem_map.mp htoken
      obtain ⟨c, hc, hblank⟩ := h word hword
      exact ⟨c, by simp [hc], hblank⟩
  intro e he hempty
  obtain ⟨token, htoken, rfl⟩ := List.mem_map.mp he
  obtain ⟨c, hc, hblank⟩ := hmark token htoken
  rw [trimEnd_eq_nil_iff.mp hempty c hc] at hblank
  exact absurd hblank (by decide)

theorem progressiveCutByLoops_eq {options : LabelOptions} (h : options.HasNoBlankStopword)
    (s : List Char) :
    progressiveCutByLoops options s = Part.some (progressiveCut options s) := by
  simp only [progressiveCutByLoops, eval_fitStep _ (stopwordTokens_ne_nil options.stopwords),
    Part.bind_eq_bind, Part.bind_some, eval_danglingStep (danglingEnds_ne_nil h)]
  rfl

/-! ## Telling labels apart -/

def numberStep (used : List String) (name : String) (maxLength : Nat) :
    String × Nat → Option (String × Nat)
  | (text, n) => if text ∈ used then some (numbered name maxLength n, n + 1) else none

def distinguishByLoops (used : List String) (name text : String) (maxLength : Nat) :
    Part String :=
  if text ∈ used then
    (eval (numberStep used name maxLength) (qualified name text maxLength, 2)).map Prod.fst
  else Part.some text

theorem reaches_numbered {used : List String} {name text : String} {maxLength k : Nat}
    (htext : text ∈ used) (hbefore : ∀ j < k, numbered name maxLength (j + 2) ∈ used) :
    Reaches (numberStep used name maxLength) (text, 2) (numbered name maxLength (k + 2), k + 3) := by
  induction k with
  | zero => exact Relation.ReflTransGen.single (if_pos htext)
  | succ k ih =>
    have hk := ih fun j hj => hbefore j (Nat.lt_succ_of_lt hj)
    exact hk.tail (if_pos (hbefore k (Nat.lt_succ_self k)))

theorem distinguishByLoops_eq (used : List String) (name text : String) (maxLength : Nat) :
    distinguishByLoops used name text maxLength =
      Part.some (distinguish used name text maxLength) := by
  by_cases htext : text ∈ used
  case neg => simp [distinguishByLoops, distinguish, htext]
  case pos =>
    have hrun : ∃ n, (distinguish used name text maxLength, n) ∈
        eval (numberStep used name maxLength) (qualified name text maxLength, 2) := by
      by_cases hlong : qualified name text maxLength ∈ used
      · obtain ⟨k, hfound, hfree, hbefore⟩ := firstFree_eq used name maxLength
        refine ⟨k + 3, mem_eval.mpr ?_⟩
        simp only [distinguish, List.contains_iff_mem.mpr htext, List.contains_iff_mem.mpr hlong,
          if_true, hfound]
        exact ⟨reaches_numbered hlong hbefore, if_neg hfree⟩
      · refine ⟨2, mem_eval.mpr ?_⟩
        have hsame : distinguish used name text maxLength = qualified name text maxLength := by
          simp [distinguish, htext, hlong]
        rw [hsame]
        exact ⟨Relation.ReflTransGen.refl, if_neg hlong⟩
    obtain ⟨n, hn⟩ := hrun
    rw [distinguishByLoops, if_pos htext, Part.eq_some_iff.mpr hn, Part.map_some]

/-! ## The whole call -/

def ofDocByLoops (options : LabelOptions) (name doc : List Char) : Part (List Char) := do
  let short ← aggressiveCutByLoops options.minLength doc
  let closed ← progressiveCutByLoops options short
  let label := dropOpenParenthesis closed
  pure (if label.isEmpty ∨ options.maxLength < label.length then name else label)

def proposeByLoops (options : LabelOptions) (name : String) (doc : Option String) : Part Label :=
  match doc with
  | none => pure ⟨name, none⟩
  | some doc =>
    if (trim doc.toList).isEmpty then pure ⟨name, none⟩
    else do
      let doc := cleanDoc options doc.toList
      let label ← ofDocByLoops options name.toList doc
      pure ⟨String.ofList label,
        if label ≠ doc ∧ doc.dropLast ≠ label then some (String.ofList doc) else none⟩

/-- The label of a field, if all loops that look for it end. -/
def extractByLoops (options : LabelOptions) (used : List String) (name : String)
    (doc : Option String) : Part Label := do
  let proposal ← proposeByLoops options name doc
  let text ← distinguishByLoops used name proposal.text options.maxLength
  pure { proposal with text }

theorem ofDocByLoops_eq {options : LabelOptions} (h : options.HasNoBlankStopword)
    (name doc : List Char) : ofDocByLoops options name doc = Part.some (ofDoc options name doc) := by
  simp only [ofDocByLoops, aggressiveCutByLoops_eq, progressiveCutByLoops_eq h, Part.bind_eq_bind,
    Part.bind_some]
  rfl

theorem proposeByLoops_eq {options : LabelOptions} (h : options.HasNoBlankStopword)
    (name : String) (doc : Option String) :
    proposeByLoops options name doc = Part.some (propose options name doc) := by
  cases doc with
  | none => rfl
  | some doc =>
    by_cases hblank : (trim doc.toList).isEmpty = true
    · simp [proposeByLoops, propose, hblank]
    · simp only [proposeByLoops, propose, if_neg hblank, ofDocByLoops_eq h, Part.bind_eq_bind,
        Part.bind_some]
      rfl

theorem extractByLoops_eq {options : LabelOptions} (h : options.HasNoBlankStopword)
    (used : List String) (name : String) (doc : Option String) :
    extractByLoops options used name doc = Part.some (extract options used name doc) := by
  simp only [extractByLoops, proposeByLoops_eq h, distinguishByLoops_eq, Part.bind_eq_bind,
    Part.bind_some]
  rfl

end Label
end SchemaModels

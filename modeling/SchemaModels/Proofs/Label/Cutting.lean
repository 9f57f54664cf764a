/-
What the cuts leave of a text.

Every pass of a cutting loop takes a beginning of the text, so what is left in the end is a beginning
too, and what the text does not hold no beginning of it holds.  So a mark that one loop has removed
does not come back in a later one, and a text in which no stopword stands any more, or that fits,
stays so while its dangling ends are dropped.
-/
import SchemaModels.Proofs.Label.Ending

namespace SchemaModels

open StateTransition

namespace Label

open Text

theorem prefix_of_reaches {step : List Char → Option (List Char)}
    (hstep : ∀ s t, step s = some t → t <+: s) {s t : List Char} (h : Reaches step s t) :
    t <+: s := by
  induction h with
  | refl => exact List.prefix_rfl
  | tail _ hlast ih => exact (hstep _ _ hlast).trans ih

/-! ## Cutting at punctuation -/

/-- The text is whole, or it was too long and is cut right before a token. -/
def IsCutBefore (minLength : Nat) (tokens : List (List Char)) (s cut : List Char) : Prop :=
  cut = s ∨ minLength < s.length ∧ ∃ token ∈ tokens, cut ++ token <+: s

section

variable {minLength : Nat} {tokens : List (List Char)} {s t u token : List Char}

theorem IsCutBefore.isBeginning (h : IsCutBefore minLength tokens s t) : t <+: s := by
  rcases h with rfl | ⟨-, token, -, hstart⟩
  · exact List.prefix_rfl
  · exact (List.prefix_append t token).trans hstart

theorem IsCutBefore.trans (hst : IsCutBefore minLength tokens s t)
    (htu : IsCutBefore minLength tokens t u) : IsCutBefore minLength tokens s u := by
  rcases htu with rfl | ⟨hlong, token, htoken, hstart⟩
  · exact hst
  · have hlength := hst.isBeginning.length_le
    exact Or.inr ⟨Nat.lt_of_lt_of_le hlong hlength, token, htoken, hstart.trans hst.isBeginning⟩

theorem isCutBefore_of_tokenStep (htoken : token ∈ tokens)
    (h : tokenStep minLength token s = some t) : IsCutBefore minLength tokens s t := by
  by_cases hlong : minLength < s.length
  · rw [tokenStep, if_pos hlong, Option.map_eq_some_iff] at h
    obtain ⟨⟨head, tail⟩, hsplit, rfl⟩ := h
    exact Or.inr ⟨hlong, token, htoken, tail, (splitLast?_eq_some hsplit).symm⟩
  · rw [tokenStep, if_neg hlong] at h
    exact absurd h (by simp)

theorem tokenStep_eq_none_iff :
    tokenStep minLength token s = none ↔ s.length ≤ minLength ∨ ¬token <:+: s := by
  by_cases hlong : minLength < s.length
  · simp [tokenStep, hlong, splitLast?_eq_none_iff, Nat.not_le_of_lt hlong]
  · simp [tokenStep, hlong, Nat.le_of_not_lt hlong]

theorem isCutBefore_of_reaches (htoken : token ∈ tokens)
    (h : Reaches (tokenStep minLength token) s t) : IsCutBefore minLength tokens s t := by
  induction h with
  | refl => exact Or.inl rfl
  | tail _ hlast ih => exact ih.trans (isCutBefore_of_tokenStep htoken hlast)

theorem isCutBefore_cutAtToken (minLength : Nat) (htoken : token ∈ tokens) (hsome : token ≠ [])
    (s : List Char) : IsCutBefore minLength tokens s (cutAtToken minLength token s) :=
  isCutBefore_of_reaches htoken (reaches_of_eval (eval_tokenStep minLength hsome s)).1

theorem cutAtToken_stops (minLength : Nat) (hsome : token ≠ []) (s : List Char) :
    (cutAtToken minLength token s).length ≤ minLength ∨
      ¬token <:+: cutAtToken minLength token s :=
  tokenStep_eq_none_iff.mp (reaches_of_eval (eval_tokenStep minLength hsome s)).2

end

/-- Tokens that are tried one after the other leave a text that is short enough or holds none of
them: no cut brings back what an earlier one has removed. -/
theorem foldl_cutAtToken (minLength : Nat) {tokens all : List (List Char)}
    (hall : ∀ token ∈ tokens, token ∈ all) (hsome : ∀ token ∈ tokens, token ≠ [])
    (s : List Char) :
    let cut := tokens.foldl (fun s token => cutAtToken minLength token s) s
    IsCutBefore minLength all s cut ∧
      (cut.length ≤ minLength ∨ ∀ token ∈ tokens, ¬token <:+: cut) := by
  induction tokens generalizing s with
  | nil => exact ⟨Or.inl rfl, Or.inr (by simp)⟩
  | cons token rest ih =>
    obtain ⟨htoken, hrest⟩ := List.forall_mem_cons.mp hall
    obtain ⟨htokenSome, hrestSome⟩ := List.forall_mem_cons.mp hsome
    obtain ⟨hcut, hstops⟩ := ih hrest hrestSome (cutAtToken minLength token s)
    have hfirst := isCutBefore_cutAtToken minLength htoken htokenSome s
    refine ⟨hfirst.trans hcut, ?_⟩
    rcases cutAtToken_stops minLength htokenSome s with hshort | hgone
    · exact Or.inl (hcut.isBeginning.length_le.trans hshort)
    · refine hstops.imp_right fun hlater => List.forall_mem_cons.mpr ⟨fun hfound => ?_, hlater⟩
      exact hgone (hfound.trans hcut.isBeginning.isInfix)

/-- The loops that cut a documentation text at punctuation end, and what they leave is a beginning of
its first line, words joined by single spaces, that is short enough or holds no strong punctuation.
The line is not cut unless it is too long, and then right before such a mark. -/
theorem aggressiveCut_ends_at_mark (minLength : Nat) (doc : List Char) :
    let line := joinWith [' '] (words (firstLine doc))
    let cut := aggressiveCut minLength doc
    aggressiveCutByLoops minLength doc = Part.some cut ∧
      cut <+: line ∧
      (cut.length ≤ minLength ∨ ∀ mark ∈ strongPunctuation, ¬mark.toList <:+: cut) ∧
      (cut = line ∨
        minLength < line.length ∧ ∃ mark ∈ strongPunctuation, cut ++ mark.toList <+: line) := by
  intro line cut
  have hmarks : ∀ token ∈ strongPunctuation.map String.toList, token ≠ [] := by decide
  have hcut : cut = (strongPunctuation.map String.toList).foldl
      (fun s token => cutAtToken minLength token s) line := by
    rw [List.foldl_map]
    rfl
  obtain ⟨hbefore, hstops⟩ := foldl_cutAtToken minLength (fun _ h => h) hmarks line
  rw [← hcut] at hbefore hstops
  refine ⟨aggressiveCutByLoops_eq minLength doc, hbefore.isBeginning, ?_, ?_⟩
  · simpa only [List.forall_mem_map] using hstops
  · simpa only [IsCutBefore, List.mem_map, exists_exists_and_eq_and] using hbefore

/-- A mark with a space behind it is looked for before the same mark without one, and colons,
hyphens and brackets are no marks by themselves. -/
example :
    ∀ line ∈ [("v1. x2.5", "v1"), ("v1, x2,5", "v1"), ("valor (total)", "valor"),
        ("valor - total", "valor"), ("valor.total", "valor"), ("valor,total", "valor"),
        ("valor: total", "valor"), ("valor|total", "valor"), ("valor:total", "valor:total"),
        ("valor-total", "valor-total"), ("valor(total)", "valor(total)"),
        ("valor; total", "valor; total"), ("valor/total", "valor/total")],
      aggressiveCut 6 line.1.toList = line.2.toList := by
  decide +kernel

/-! ## Cutting at stopwords -/

/-- A stopword stands in the text with a space on either side, and something before them. -/
def HoldsStopword (options : LabelOptions) (text : List Char) : Prop :=
  ∃ word ∈ options.stopwords, ∃ before after, before ≠ [] ∧
    text = before ++ ([' '] ++ word.toList ++ [' ']) ++ after

section

variable {options : LabelOptions} {tokens : List (List Char)} {s t : List Char}

theorem longestHead_concat_of_none {token : List Char} (h : splitLast? token s = none) :
    longestHead (tokens ++ [token]) s = longestHead tokens s := by
  simp only [longestHead, List.foldl_append, List.foldl_cons, List.foldl_nil, h]

theorem longestHead_concat_of_some {token head tail : List Char}
    (h : splitLast? token s = some (head, tail)) :
    longestHead (tokens ++ [token]) s =
      if (longestHead tokens s).length < head.length then head else longestHead tokens s := by
  simp only [longestHead, List.foldl_append, List.foldl_cons, List.foldl_nil, h]
  rfl

theorem length_le_longestHead {token head tail : List Char} (htoken : token ∈ tokens)
    (h : splitLast? token s = some (head, tail)) :
    head.length ≤ (longestHead tokens s).length := by
  induction tokens using List.reverseRecOn with
  | nil => exact absurd htoken List.not_mem_nil
  | append_singleton rest last ih =>
    rcases List.mem_append.mp htoken with hrest | hlast
    · have hle := ih hrest
      cases hsplit : splitLast? last s with
      | none => rwa [longestHead_concat_of_none hsplit]
      | some parts =>
        rw [longestHead_concat_of_some hsplit]
        split <;> omega
    · obtain rfl : token = last := List.mem_singleton.mp hlast
      rw [longestHead_concat_of_some h]
      split <;> omega

theorem longestHead_eq_nil_iff :
    longestHead tokens s = [] ↔
      ∀ token ∈ tokens, ∀ before after, s = before ++ token ++ after → before = [] := by
  constructor
  · rintro hnone token htoken before after rfl
    obtain ⟨lead, last, hsplit, hle⟩ := exists_splitLast? token before after
    have hlead := length_le_longestHead htoken hsplit
    rw [hnone] at hlead
    exact List.length_eq_zero_iff.mp (Nat.le_zero.mp (hle.trans hlead))
  · intro hnone
    rcases longestHead_cases tokens s with hempty | ⟨token, htoken, tail, hsplit⟩
    · exact hempty
    · exact hnone token htoken _ tail (splitLast?_eq_some hsplit)

theorem longestHead_eq_nil_iff_not_holdsStopword :
    longestHead (stopwordTokens options.stopwords) s = [] ↔ ¬HoldsStopword options s := by
  rw [longestHead_eq_nil_iff, stopwordTokens, List.forall_mem_map, HoldsStopword]
  push Not
  refine forall₂_congr fun word _ => forall₂_congr fun before after => ?_
  exact not_imp_not.symm

theorem fitStep_eq_none_iff {maxLength : Nat} :
    fitStep maxLength tokens s = none ↔ s.length ≤ maxLength ∨ longestHead tokens s = [] := by
  rw [fitStep, ite_eq_right_iff, imp_iff_not (by simp), not_and_or, Nat.not_lt, not_not]

theorem prefix_of_fitStep {maxLength : Nat} (h : fitStep maxLength tokens s = some t) :
    t <+: s := by
  obtain ⟨⟨-, hsome⟩, rfl⟩ : (maxLength < s.length ∧ longestHead tokens s ≠ []) ∧
      longestHead tokens s = t := by
    simpa [fitStep] using h
  obtain ⟨token, -, tail, hsplit⟩ := (longestHead_cases tokens s).resolve_left hsome
  have hwhole := splitLast?_eq_some hsplit
  rw [List.append_assoc] at hwhole
  exact ⟨token ++ tail, hwhole.symm⟩

theorem prefix_of_danglingStep {ends : List (List Char)} (h : danglingStep ends s = some t) :
    t <+: s := by
  obtain ⟨e, -, hcut⟩ := Option.bind_eq_some_iff.mp h
  obtain ⟨head, hhead, rfl⟩ := Option.map_eq_some_iff.mp hcut
  rw [before?_eq_some_iff.mp hhead]
  exact (trimEnd_prefix_self head).trans (List.prefix_append head e)

/-- A text that holds no stopword keeps none, however it is cut. -/
theorem HoldsStopword.of_beginning (h : HoldsStopword options t) (hstart : t <+: s) :
    HoldsStopword options s := by
  obtain ⟨word, hword, before, after, hsome, rfl⟩ := h
  obtain ⟨rest, rfl⟩ := hstart
  exact ⟨word, hword, before, after ++ rest, hsome, by simp only [List.append_assoc]⟩

/-- The text fits, or there is no stopword at which it could be cut. -/
def IsFitted (options : LabelOptions) (text : List Char) : Prop :=
  text.length ≤ options.maxLength ∨ ¬HoldsStopword options text

theorem IsFitted.of_beginning (h : IsFitted options s) (hstart : t <+: s) : IsFitted options t :=
  h.imp hstart.length_le.trans fun hnone hholds => hnone (hholds.of_beginning hstart)

theorem fitStep_eq_none_iff_isFitted :
    fitStep options.maxLength (stopwordTokens options.stopwords) s = none ↔
      IsFitted options s := by
  rw [fitStep_eq_none_iff, longestHead_eq_nil_iff_not_holdsStopword, IsFitted]

end

/-- The loops that make a text fit and close it end, for any options without blank stopwords.  What
they leave is a beginning of the text that neither dangles nor could be cut further to fit, and a
text that is such already stays as it is. -/
theorem progressiveCut_is_fitted {options : LabelOptions} (hstopwords : options.HasNoBlankStopword)
    (s : List Char) :
    let cut := progressiveCut options s
    progressiveCutByLoops options s = Part.some cut ∧
      cut <+: s ∧
      ¬Dangles options cut ∧
      (cut.length ≤ options.maxLength ∨ ¬HoldsStopword options cut) ∧
      (cut = s ↔ ¬Dangles options s ∧
        (s.length ≤ options.maxLength ∨ ¬HoldsStopword options s)) := by
  intro cut
  let tokens := stopwordTokens options.stopwords
  let fitting := cutToFit options.maxLength tokens s
  have htokens : ∀ token ∈ tokens, token ≠ [] := stopwordTokens_ne_nil options.stopwords
  obtain ⟨hfitRun, hfitStop⟩ := reaches_of_eval (eval_fitStep options.maxLength htokens s)
  obtain ⟨hendRun, -⟩ := reaches_of_eval (eval_danglingStep (danglingEnds_ne_nil hstopwords) fitting)
  have hfitPrefix : fitting <+: s := prefix_of_reaches (fun _ _ => prefix_of_fitStep) hfitRun
  have hendPrefix : cut <+: fitting :=
    prefix_of_reaches (fun _ _ => prefix_of_danglingStep) hendRun
  have hcloses : ¬Dangles options cut := not_dangles_progressiveCut hstopwords s
  have hfits : IsFitted options cut :=
    (fitStep_eq_none_iff_isFitted.mp hfitStop).of_beginning hendPrefix
  refine ⟨progressiveCutByLoops_eq hstopwords s, hendPrefix.trans hfitPrefix, hcloses, hfits,
    fun hsame => hsame ▸ ⟨hcloses, hfits⟩, ?_⟩
  rintro ⟨hcloses, hfits⟩
  have hfitting : fitting = s := Part.some_inj.mp <|
    (eval_fitStep options.maxLength htokens s).symm.trans
      (eval_of_stopped (fitStep_eq_none_iff_isFitted.mpr hfits))
  have hclosed : danglingStep (danglingEnds tokens) s = none := by
    rw [danglingStep_eq_none_iff]
    exact fun e he hend => hcloses ((dangles_iff hstopwords).mpr ⟨e, he, hend⟩)
  show dropDangling (danglingEnds tokens) fitting = s
  rw [hfitting]
  exact Part.some_inj.mp <|
    (eval_danglingStep (danglingEnds_ne_nil hstopwords) s).symm.trans (eval_of_stopped hclosed)

/-- A text that is cut before two stopwords and loses a third one and a comma, and one that stays too
long: its only stopword stands at the start. -/
theorem long_texts_cut :
    let options : LabelOptions := ⟨3, 12, ["de", "da"], []⟩
    options.HasNoBlankStopword ∧
      progressiveCutByLoops options "Valor, de da nota de hoje da casa".toList =
        Part.some "Valor".toList ∧
      ¬Dangles options "Valor".toList ∧
      progressiveCutByLoops options " de Identificador".toList =
        Part.some " de Identificador".toList ∧
      options.maxLength < " de Identificador".toList.length ∧
      ¬HoldsStopword options " de Identificador".toList := by
  intro options
  have hstopwords : options.HasNoBlankStopword := by decide
  have hcut : progressiveCut options "Valor, de da nota de hoje da casa".toList =
      "Valor".toList := by
    cbv
  have hsame : progressiveCut options " de Identificador".toList =
      " de Identificador".toList := by
    cbv
  obtain ⟨hrun, -, hcloses, -, -⟩ :=
    progressiveCut_is_fitted hstopwords "Valor, de da nota de hoje da casa".toList
  obtain ⟨hrun', -, -, hfits, -⟩ := progressiveCut_is_fitted hstopwords " de Identificador".toList
  rw [hcut] at hrun hcloses
  rw [hsame] at hrun' hfits
  have hlong : options.maxLength < " de Identificador".toList.length := by decide
  exact ⟨hstopwords, hrun, hcloses, hrun', hlong, hfits.resolve_left (Nat.not_le_of_lt hlong)⟩

end Label
end SchemaModels

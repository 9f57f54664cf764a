/-
When a docstring is one literal.

Filling lines moves white space and nothing else: the literal is made of the words of the text
between its delimiters, and white space is all one to a reader of literals.  So the docstring is read
as if it had not been wrapped, and whether it is one literal depends on the text: its quotes and
backslashes are written as they are.
-/
import SchemaModels.Proofs.Source.Enclosure
import SchemaModels.Proofs.Source.Filling

namespace SchemaModels
namespace Docstring

open Text Enclosure

/-! ## Filling lines -/

variable {separator : List Char}

/-- Lines are filled with words if they hold these one after the other, and no line is there without
words. -/
def Fills (separator : List Char) (ws lines : List (List Char)) : Prop :=
  ws = [] ∧ lines = [] ∨ Spaced ws (joinWith separator lines)

theorem lines_ne_nil {ws lines : List (List Char)} (h : Spaced ws (joinWith separator lines)) :
    lines ≠ [] := by
  rintro rfl
  exact h.text_ne_nil rfl

theorem Fills.append {ws vs ls ms : List (List Char)} (hseparator : IsGap separator)
    (hfirst : Fills separator ws ls) (hlater : Fills separator vs ms) :
    Fills separator (ws ++ vs) (ls ++ ms) := by
  rcases hfirst with ⟨rfl, rfl⟩ | hfirst
  · exact hlater
  rcases hlater with ⟨rfl, rfl⟩ | hlater
  · rw [List.append_nil, List.append_nil]
    exact .inr hfirst
  · right
    rw [joinWith_append (lines_ne_nil hfirst) (lines_ne_nil hlater)]
    exact hfirst.append hseparator hlater

theorem Filled.fills (hseparator : IsGap separator) {limit width : Nat} {ws rows : List (List Char)}
    (h : Filled width limit ws rows) : Fills separator ws rows := by
  induction h with
  | nil => exact .inl ⟨rfl, rfl⟩
  | @cons _ row later rows hrow _ _ _ ih =>
    have hfirst : Fills separator (words row) [row] := .inr hrow.1
    exact hfirst.append hseparator ih

theorem fills_fill (hseparator : IsGap separator) (line : List Char) (firstWidth width : Nat) :
    Fills separator (words line) (fill line firstWidth width) :=
  (filled_fill line firstWidth width).fills hseparator

theorem fills_wrapLines (hseparator : IsGap separator) (quotedLines : List (List Char))
    (indent width : Nat) :
    Fills separator (quotedLines.flatMap words) (wrapLines quotedLines indent width) := by
  cases quotedLines with
  | nil => exact .inl ⟨rfl, rfl⟩
  | cons first rest =>
    refine (fills_fill hseparator first _ _).append hseparator ?_
    induction rest with
    | nil => exact .inl ⟨rfl, rfl⟩
    | cons line rest ih => exact (fills_fill hseparator line _ _).append hseparator ih

/-! ## Delimiters -/

theorem delimiter_cases (text : List Char) (width : Nat) :
    delimiter text width = List.replicate 3 '"' ∨
      delimiter text width = List.replicate 1 '"' ∧ text.length + 12 ≤ width ∧
        '\n' ∉ text ∧ '"' ∉ text := by
  rw [delimiter]
  split
  · exact .inl rfl
  · rename_i h
    simp only [initialIndent, List.contains_iff_mem, not_or, Nat.not_lt] at h
    exact .inr ⟨rfl, by omega, h.2⟩

section Delimited

variable {n : Nat}

theorem read_delimited (hn : 0 < n) (text : List Char) :
    Place.read n (.opening 0) (delimited text (List.replicate n '"')) = .closed ↔
      ¬HoldsQuotes n text ∧ Even (slashes text) := by
  have hspace : ∀ apart : Bool,
      Place.read n (.inside 0) (if apart then [' '] else []) = .inside 0 := by
    intro apart
    cases apart <;> rfl
  have hlast : (if endsWith ['"'] text then [' '] else []) =
      if text.getLast? = some '"' then [' '] else [] := by
    simp only [endsWith_singleton]
  rw [← Place.read_closed_iff hn, delimited, hlast]
  simp only [Place.read_append, Place.read_opening hn, hspace]

theorem spaced_delimited (hn : 0 < n) (text : List Char) :
    Spaced (words (delimited text (List.replicate n '"')))
      (delimited text (List.replicate n '"')) := by
  obtain ⟨m, rfl⟩ : ∃ m, n = m + 1 := ⟨n - 1, by omega⟩
  have hfirst : (delimited text (List.replicate (m + 1) '"')).head? = some '"' := by
    simp only [delimited, List.replicate_succ, List.cons_append, List.head?_cons]
  have hlast : (delimited text (List.replicate (m + 1) '"')).getLast? = some '"' := by
    rw [delimited, List.replicate_succ', ← List.append_assoc]
    exact List.getLast?_concat
  refine spaced_words (fun c hc => ?_) (fun c hc => ?_) fun hempty => ?_
  · rw [← Option.some.inj (hfirst.symm.trans hc), isBlank_quote]
  · rw [← Option.some.inj (hlast.symm.trans hc), isBlank_quote]
  · rw [hempty] at hfirst
    exact absurd hfirst (by simp)

theorem newline_not_mem_delimited {text : List Char} (htext : '\n' ∉ text) :
    '\n' ∉ delimited text (List.replicate n '"') := by
  have hgap : ∀ apart : Bool, '\n' ∉ if apart then [' '] else [] := by decide
  simp [delimited, htext, hgap, List.mem_replicate]

theorem length_delimited_le (text : List Char) :
    (delimited text (List.replicate n '"')).length ≤ text.length + 2 * n + 2 := by
  have hgap : ∀ apart : Bool, (if apart then [' '] else []).length ≤ 1 := by decide
  have hbegin := hgap (beginsWith ['"'] text)
  have hend := hgap (endsWith ['"'] text)
  simp only [delimited, List.length_append, List.length_replicate]
  omega

theorem not_prefix_delimited {text : List Char} (hsome : text ≠ []) (htext : '"' ∉ text) :
    ¬tripleQuote <+: delimited text ['"'] := by
  obtain ⟨c, rest, rfl⟩ := List.exists_cons_of_ne_nil hsome
  have hc : '"' ≠ c := fun h => htext (h ▸ List.mem_cons_self)
  have hbegin : beginsWith ['"'] (c :: rest) = false := by
    rw [Bool.eq_false_iff, Ne, beginsWith_iff, List.cons_prefix_cons]
    exact fun h => hc h.1
  simp [delimited, hbegin, tripleQuote, hc]

/-! ## Wrapped texts -/

/-- The text between `n` quotes on either side, on lines. -/
def wrapped (text : List Char) (n indent width : Nat) : List Char :=
  joinWith ('\n' :: List.replicate indent ' ')
    (wrapLines (lines (delimited text (List.replicate n '"'))) indent width)

theorem spaced_wrapped (hn : 0 < n) (text : List Char) (indent width : Nat) :
    Spaced (words (delimited text (List.replicate n '"'))) (wrapped text n indent width) := by
  have hgap : IsGap ('\n' :: List.replicate indent ' ') := by
    refine ⟨List.cons_ne_nil _ _, List.forall_mem_cons.mpr ⟨isBlank_newline, fun c hc => ?_⟩⟩
    rw [List.eq_of_mem_replicate hc]
    exact isBlank_space
  have hfills := fills_wrapLines hgap (lines (delimited text (List.replicate n '"'))) indent width
  rw [flatMap_words_lines] at hfills
  exact hfills.resolve_left fun h => (spaced_delimited hn text).ne_nil h.1

theorem read_wrapped (hn : 0 < n) (text : List Char) (indent width : Nat) :
    Place.read n (.opening 0) (wrapped text n indent width) = .closed ↔
      ¬HoldsQuotes n text ∧ Even (slashes text) := by
  rw [← read_delimited hn,
    Place.read_spaced (spaced_wrapped hn text indent width) (spaced_delimited hn text)]

theorem prefix_wrapped_iff (hn : 0 < n) (text : List Char) (m indent width : Nat) :
    List.replicate m '"' <+: wrapped text n indent width ↔
      List.replicate m '"' <+: delimited text (List.replicate n '"') := by
  have hquotes : ∀ c ∈ List.replicate m '"', isBlank c = false := by
    intro c hc
    rw [List.eq_of_mem_replicate hc]
    exact isBlank_quote
  rw [(spaced_wrapped hn text indent width).prefix_iff hquotes,
    (spaced_delimited hn text).prefix_iff hquotes]

theorem quotes_prefix_wrapped (hn : 0 < n) (text : List Char) (indent width : Nat) :
    List.replicate n '"' <+: wrapped text n indent width := by
  rw [prefix_wrapped_iff hn, delimited]
  simp only [List.append_assoc]
  exact List.prefix_append _ _

end Delimited

theorem wrapped_of_fits {text : List Char} (hbreak : '\n' ∉ text) {n indent width : Nat}
    (hn : 0 < n)
    (hfits : (delimited text (List.replicate n '"')).length ≤ width - initialIndent) :
    wrapped text n indent width =
      joinWith [' '] (words (delimited text (List.replicate n '"'))) := by
  have hspaced := spaced_delimited hn text
  have hone := newline_not_mem_delimited (n := n) hbreak
  rw [wrapped]
  generalize delimited text (List.replicate n '"') = line at *
  have hrows : fill line (width - initialIndent) (width - initialIndent - indent) =
      [joinWith [' '] (words line)] := by
    have hfilled := filled_fill line (width - initialIndent) (width - initialIndent - indent)
    exact hfilled.eq_singleton hspaced.ne_nil (Nat.le_trans hspaced.length_le hfits)
  simp only [lines_of_no_newline hspaced.text_ne_nil hone, wrapLines, hrows, List.flatMap_nil,
    List.append_nil, joinWith]

/-- Between single quotes all white space is spaces: the length that allows for them allows for one
line. -/
theorem eq_space_of_mem_wrapped_one {text : List Char} (hbreak : '\n' ∉ text) {width : Nat}
    (hfits : text.length + 12 ≤ width) (indent : Nat) {c : Char}
    (hc : c ∈ wrapped text 1 indent width) (hblank : isBlank c = true) : c = ' ' := by
  have hlength := length_delimited_le (n := 1) text
  have hone : (delimited text (List.replicate 1 '"')).length ≤ width - initialIndent := by
    rw [initialIndent]
    omega
  rw [wrapped_of_fits hbreak Nat.one_pos hone] at hc
  exact (spaced_delimited Nat.one_pos text).eq_space_of_mem hc hblank

/-! ## Docstrings -/

theorem isLiteral_wrapped_three (text : List Char) (indent width : Nat) :
    IsLiteral (wrapped text 3 indent width) ↔ ¬HoldsQuotes 3 text ∧ Even (slashes text) := by
  have hthree : tripleQuote <+: wrapped text 3 indent width :=
    quotes_prefix_wrapped (n := 3) (by decide) text indent width
  rw [IsLiteral, if_pos hthree, read_wrapped (by decide)]

theorem isLiteral_wrapped_one {text : List Char} (hsome : text ≠ []) (hquote : '"' ∉ text)
    (hbreak : '\n' ∉ text) {width : Nat} (hfits : text.length + 12 ≤ width) (indent : Nat) :
    IsLiteral (wrapped text 1 indent width) ↔ Even (slashes text) := by
  have hsingle : ¬tripleQuote <+: wrapped text 1 indent width :=
    mt (prefix_wrapped_iff Nat.one_pos text 3 indent width).mp (not_prefix_delimited hsome hquote)
  have hnone : ¬HoldsQuotes 1 text := by
    rintro ⟨before, behind, rfl, -⟩
    exact hquote (by simp)
  have hline : ∀ c, isBlank c = true → c ≠ ' ' → c ∉ wrapped text 1 indent width :=
    fun c hblank hother hc => hother (eq_space_of_mem_wrapped_one hbreak hfits indent hc hblank)
  rw [IsLiteral, if_neg hsingle, read_wrapped Nat.one_pos]
  refine ⟨fun h => h.1.2, fun heven => ⟨⟨hnone, heven⟩, ?_, ?_⟩⟩
  · exact hline '\n' isBlank_newline (by decide)
  · exact hline '\r' isBlank_return (by decide)

/-- The docstring of a text begins with its delimiter, and is one literal just if no three quotes in
a row stand in the text of which the first is not escaped and the text does not end in the middle of
an escape. -/
theorem wrapText_isLiteral_iff {text : String} (h : ∃ c ∈ text.toList, isBlank c = false)
    (indent width : Nat) :
    delimiter (trim text.toList) width <+: (wrapText text indent width).toList ∧
      (IsLiteral (wrapText text indent width).toList ↔
        ¬HoldsQuotes 3 (trim text.toList) ∧ Even (slashes (trim text.toList))) := by
  have hsome := trim_ne_nil h
  rw [wrapText, String.toList_ofList, wrap, if_neg (by simpa using hsome)]
  generalize trim text.toList = text at hsome ⊢
  rcases delimiter_cases text width with hthree | ⟨hone, hfits, hbreak, hquote⟩
  · rw [hthree]
    exact ⟨quotes_prefix_wrapped (by decide) text indent width,
      isLiteral_wrapped_three text indent width⟩
  · have hnone : ¬HoldsQuotes 3 text := by
      rintro ⟨before, behind, rfl, -⟩
      exact hquote (by simp)
    have hliteral := isLiteral_wrapped_one hsome hquote hbreak hfits indent
    rw [hone]
    exact ⟨quotes_prefix_wrapped Nat.one_pos text indent width,
      hliteral.trans (and_iff_right hnone).symm⟩

/-- Quotes at the end are set apart, but a backslash there takes a quote of the delimiter along, and
three quotes within close the literal before its end. -/
theorem quotes_and_slashes :
    IsLiteral (wrapText "Tag \"raiz\"" 4 79).toList ∧
      wrapText "a\\" 4 79 = "\"a\\\"" ∧ ¬IsLiteral (wrapText "a\\" 4 79).toList ∧
      wrapText "a \"\"\" b" 4 79 = "\"\"\"a \"\"\" b\"\"\"" ∧
      ¬IsLiteral (wrapText "a \"\"\" b" 4 79).toList := by
  have hquotes : ∃ c ∈ "Tag \"raiz\"".toList, isBlank c = false :=
    exists_not_blank_iff.mpr (by decide +kernel)
  have hslash : ∃ c ∈ "a\\".toList, isBlank c = false :=
    exists_not_blank_iff.mpr (by decide +kernel)
  have hthree : ∃ c ∈ "a \"\"\" b".toList, isBlank c = false :=
    exists_not_blank_iff.mpr (by decide +kernel)
  refine ⟨(wrapText_isLiteral_iff hquotes 4 79).2.mpr ⟨?_, by decide +kernel⟩,
    by decide +kernel, fun h => ?_, by decide +kernel, fun h => ?_⟩
  · rintro ⟨before, behind, htext, -⟩
    have hcount := congrArg (List.count '"') htext
    have htwo : (trim "Tag \"raiz\"".toList).count '"' = 2 := by decide +kernel
    rw [htwo, List.count_append, List.count_append, List.count_replicate_self] at hcount
    omega
  · have heven := ((wrapText_isLiteral_iff hslash 4 79).2.mp h).2
    exact absurd heven (by decide +kernel)
  · have hnone := ((wrapText_isLiteral_iff hthree 4 79).2.mp h).1
    exact hnone ⟨['a', ' '], [' ', 'b'], by decide +kernel, by decide +kernel⟩

end Docstring
end SchemaModels

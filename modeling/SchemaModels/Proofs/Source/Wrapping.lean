/-
The lines of a docstring: which words stand on them and how wide they are.

Every row behind the first one of a line of the text is filled with the indentation counted.  The
first row is not: where it opens the docstring the room in front of it is taken off, but the first
rows of later lines are filled up to the whole width and indented after that.  `wrapText_fits_iff`
says for which texts this shows.
-/
import SchemaModels.Proofs.Source.Docstring

namespace SchemaModels
namespace Docstring

open Text Enclosure

/-! ## Indented rows -/

section Indented

variable (indent : Nat)

theorem words_indented (row : List Char) :
    words (List.replicate indent ' ' ++ row) = words row := by
  induction indent with
  | zero => rfl
  | succ n ih => rw [List.replicate_succ, List.cons_append, words_cons isBlank_space, ih]

theorem forall_indented_fits_iff {rows : List (List Char)} (h : ∀ row ∈ rows, row ≠ [])
    (width : Nat) :
    (∀ line ∈ rows.map (List.replicate indent ' ' ++ ·), Fits width line) ↔
      ∀ row ∈ rows, Fits (width - indent) row := by
  rw [List.forall_mem_map]
  refine forall₂_congr fun row hrow => ?_
  have hpos := List.length_pos_iff.mpr (h row hrow)
  rw [Fits, Fits, words_indented, List.length_append, List.length_replicate]
  refine or_congr_left ?_
  omega

end Indented

/-! ## The lines of a docstring -/

theorem exists_delimiter (text : List Char) (width : Nat) :
    ∃ n, 0 < n ∧ delimiter text width = List.replicate n '"' := by
  rcases delimiter_cases text width with hthree | ⟨hone, -⟩
  · exact ⟨3, by decide, hthree⟩
  · exact ⟨1, by decide, hone⟩

theorem toList_wrapText {text : String} (hsome : trim text.toList ≠ []) {n width : Nat}
    (hquote : delimiter (trim text.toList) width = List.replicate n '"') (indent : Nat) :
    (wrapText text indent width).toList = wrapped (trim text.toList) n indent width := by
  rw [wrapText, String.toList_ofList, wrap, if_neg (by simpa using hsome), hquote]
  rfl

theorem toList_wrapText_of_blank {text : String} (hblank : trim text.toList = [])
    (indent width : Nat) : (wrapText text indent width).toList = [] := by
  rw [wrapText, String.toList_ofList, wrap, if_pos (by simp [hblank])]

/-- The docstring has the rows of its first line, which is never blank, and then those of the later
lines, and all of them but the very first one are indented. -/
theorem exists_lines_wrapped {n : Nat} (hn : 0 < n) (text : List Char) (indent width : Nat) :
    ∃ first later row rows, lines (delimited text (List.replicate n '"')) = first :: later ∧
      fill first (width - initialIndent) (width - initialIndent - indent) = row :: rows ∧
      (∀ r ∈ rows ++ later.flatMap fun line => fill line width (width - indent), IsRow r) ∧
      lines (wrapped text n indent width) =
        row :: (rows ++ later.flatMap fun line => fill line width (width - indent)).map
          (List.replicate indent ' ' ++ ·) := by
  have hspaced := spaced_delimited hn text
  have hhead : ∀ c ∈ (delimited text (List.replicate n '"')).head?, isBlank c = false := by
    obtain ⟨m, rfl⟩ : ∃ m, n = m + 1 := ⟨n - 1, by omega⟩
    intro c hc
    obtain rfl : '"' = c := by simpa [delimited, List.replicate_succ] using hc
    exact isBlank_quote
  obtain ⟨first, later, hlines, hwords⟩ := exists_lines_cons hspaced.text_ne_nil hhead
  have hfilled := filled_fill first (width - initialIndent) (width - initialIndent - indent)
  obtain ⟨row, rows, hrows⟩ : ∃ row rows,
      fill first (width - initialIndent) (width - initialIndent - indent) = row :: rows := by
    exact List.exists_cons_of_ne_nil (mt hfilled.eq_nil_iff.mpr hwords)
  have hfirst := (hrows ▸ hfilled).isRow
  obtain ⟨hrow, hmore⟩ := List.forall_mem_cons.mp hfirst
  have hlater : ∀ r ∈ rows ++ later.flatMap fun line => fill line width (width - indent),
      IsRow r := by
    intro r hr
    rcases List.mem_append.mp hr with hr | hr
    · exact hmore r hr
    · obtain ⟨line, -, hr⟩ := List.mem_flatMap.mp hr
      exact (filled_fill line width (width - indent)).isRow r hr
  have hmargin : '\n' ∉ List.replicate indent ' ' ∧ '\r' ∉ List.replicate indent ' ' := by
    simp [List.mem_replicate]
  refine ⟨first, later, row, rows, hlines, hrows, hlater, ?_⟩
  rw [wrapped, hlines, wrapLines, hrows, List.cons_append]
  exact lines_joinWith hmargin
    (List.forall_mem_cons.mpr ⟨hrow.isLine, fun r hr => (hlater r hr).isLine⟩)

/-- The line has an opening of several words that fits into the width, but not behind the
indentation. -/
def Overhangs (indent width : Nat) (line : List Char) : Prop :=
  ∃ k, 2 ≤ k ∧ k ≤ (words line).length ∧ (opening k (words line)).length ≤ width ∧
    width - indent < (opening k (words line)).length

theorem forall_fill_fits_iff (indent width : Nat) (line : List Char) :
    (∀ row ∈ fill line width (width - indent), Fits (width - indent) row) ↔
      ¬Overhangs indent width line := by
  have hfilled := filled_fill line width (width - indent)
  have hnone : ¬Overhangs indent width line ↔
      ∀ k, 2 ≤ k → k ≤ (words line).length → (opening k (words line)).length ≤ width →
        (opening k (words line)).length ≤ width - indent := by
    simp only [Overhangs, not_exists, not_and, Nat.not_lt]
  rw [hnone]
  cases hrows : fill line width (width - indent) with
  | nil =>
    rw [hrows] at hfilled
    refine iff_of_true (by simp) fun k htwo hk => ?_
    rw [hfilled.eq_nil_iff.mpr rfl, List.length_nil] at hk
    omega
  | cons row rows =>
    rw [hrows] at hfilled
    rw [List.forall_mem_cons, hfilled.first_fits_iff]
    exact and_iff_left hfilled.fits.2

theorem fits_first_line_wrapped {n : Nat} (hn : 0 < n) (text : List Char) (indent width : Nat) :
    ∀ line ∈ (lines (wrapped text n indent width)).head?, Fits (width - initialIndent) line := by
  obtain ⟨first, later, row, rows, -, hrows, -, hlines⟩ :=
    exists_lines_wrapped hn text indent width
  have hfirst := (filled_fill first (width - initialIndent) (width - initialIndent - indent)).fits
  rw [hrows] at hfirst
  rw [hlines]
  exact hfirst.1

/-- Of the lines of a docstring only the rows of later lines of the text can be too wide. -/
theorem forall_lines_wrapped_fits_iff {n : Nat} (hn : 0 < n) (text : List Char) (indent : Nat)
    {width bound : Nat} (hle : width ≤ bound) :
    (∀ line ∈ lines (wrapped text n indent width), Fits bound line) ↔
      ∀ line ∈ (lines (delimited text (List.replicate n '"'))).tail,
        ∀ row ∈ fill line width (width - indent), Fits (bound - indent) row := by
  obtain ⟨first, later, row, rows, hsource, hrows, hisRow, hlines⟩ :=
    exists_lines_wrapped hn text indent width
  have hfirst := (filled_fill first (width - initialIndent) (width - initialIndent - indent)).fits
  rw [hrows] at hfirst
  have hrow : Fits bound row := (hfirst.1 row rfl).mono (by omega)
  have hcontinued : ∀ r ∈ rows, Fits (bound - indent) r := fun r hr =>
    (hfirst.2 r hr).mono (by omega)
  rw [hsource, List.tail_cons, hlines, List.forall_mem_cons,
    forall_indented_fits_iff _ fun r hr => (hisRow r hr).1.text_ne_nil]
  constructor
  · intro h line hline r hr
    exact h.2 r (List.mem_append_right _ (List.mem_flatMap.mpr ⟨line, hline, hr⟩))
  · intro h
    refine ⟨hrow, fun r hr => ?_⟩
    rcases List.mem_append.mp hr with hr | hr
    · exact hcontinued r hr
    · obtain ⟨line, hline, hr⟩ := List.mem_flatMap.mp hr
      exact h line hline r hr

/-! ## Main statements -/

/-- Blank text gives nothing, and other text the words of the text between its delimiters in their
order; between single quotes they are on one line. -/
theorem words_wrapText (text : String) (indent width : Nat) :
    ((∀ c ∈ text.toList, isBlank c = true) → wrapText text indent width = "") ∧
      ((∃ c ∈ text.toList, isBlank c = false) →
        words (wrapText text indent width).toList =
          words (delimited (trim text.toList) (delimiter (trim text.toList) width))) ∧
      (¬tripleQuote <+: (wrapText text indent width).toList →
        '\n' ∉ (wrapText text indent width).toList) := by
  refine ⟨fun hblank => ?_, fun hsome => ?_, fun hsingle => ?_⟩
  · exact String.toList_inj.mp (toList_wrapText_of_blank (trim_eq_nil hblank) indent width)
  · obtain ⟨n, hn, hquote⟩ := exists_delimiter (trim text.toList) width
    rw [toList_wrapText (trim_ne_nil hsome) hquote, hquote]
    exact (spaced_wrapped hn _ indent width).words_eq
  · by_cases hsome : trim text.toList = []
    · rw [toList_wrapText_of_blank hsome]
      exact List.not_mem_nil
    rcases delimiter_cases (trim text.toList) width with hthree | ⟨hone, hfits, hbreak, -⟩
    · rw [toList_wrapText hsome hthree] at hsingle
      exact absurd (quotes_prefix_wrapped (by decide) _ indent width) hsingle
    · rw [toList_wrapText hsome hone]
      intro hnewline
      have hspace := eq_space_of_mem_wrapped_one hbreak hfits indent hnewline isBlank_newline
      exact absurd hspace (by decide)

theorem quoted_lines_keep_words :
    wrapText " \n" 4 79 = "" ∧
      words (wrapText "Tag \"raiz\"\n  da nota" 4 16).toList =
        ["\"\"\"Tag".toList, "\"raiz\"".toList, "da".toList, "nota\"\"\"".toList] ∧
      '\n' ∉ (wrapText "Grupo do emitente" 4 79).toList := by
  have hsome : ∃ c ∈ "Tag \"raiz\"\n  da nota".toList, isBlank c = false :=
    exists_not_blank_iff.mpr (by decide +kernel)
  have hblank : ∀ c ∈ " \n".toList, isBlank c = true := List.all_eq_true.mp (by decide +kernel)
  refine ⟨(words_wrapText " \n" 4 79).1 hblank, ?_,
    (words_wrapText "Grupo do emitente" 4 79).2.2 (by decide +kernel)⟩
  rw [(words_wrapText _ 4 16).2.1 hsome]
  decide +kernel

/-- The first line of a docstring leaves room for what stands in front of it, and no line is wider
than the width and the indentation together.  All lines keep to the width just if no later line of
the text overhangs: its first row is filled as if it were not indented. -/
theorem wrapText_fits_iff (text : String) (indent width : Nat) :
    (∀ line ∈ (lines (wrapText text indent width).toList).head?,
      Fits (width - initialIndent) line) ∧
    (∀ line ∈ lines (wrapText text indent width).toList, Fits (width + indent) line) ∧
    ((∀ line ∈ lines (wrapText text indent width).toList, Fits width line) ↔
      ∀ line ∈ (lines (delimited (trim text.toList) (delimiter (trim text.toList) width))).tail,
        ¬Overhangs indent width line) := by
  obtain ⟨n, hn, hquote⟩ := exists_delimiter (trim text.toList) width
  by_cases hsome : trim text.toList = []
  · have hlines : lines (wrapText text indent width).toList = [] := by
      rw [toList_wrapText_of_blank hsome]
      rfl
    have hone : (lines (delimited (trim text.toList) (List.replicate n '"'))).tail = [] := by
      rw [lines_of_no_newline (spaced_delimited hn _).text_ne_nil, List.tail_cons]
      exact newline_not_mem_delimited (by simp [hsome])
    rw [hquote, hlines, hone]
    simp
  rw [toList_wrapText hsome hquote, hquote]
  refine ⟨fits_first_line_wrapped hn _ indent width, ?_, ?_⟩
  · rw [forall_lines_wrapped_fits_iff hn _ indent (Nat.le_add_right width indent),
      Nat.add_sub_cancel]
    exact fun line _ row hrow => fits_of_mem_fill (Nat.sub_le width indent) hrow
  · rw [forall_lines_wrapped_fits_iff hn _ indent (Nat.le_refl width)]
    exact forall₂_congr fun line _ => forall_fill_fits_iff indent width line

/-- The second line has as many characters with its delimiter as the width allows, and is indented
then; an overhanging text needs no words that are too long. -/
theorem second_line_overhangs :
    wrapText "Grupo\nDados da nota" 4 16 = "\"\"\"Grupo\n    Dados da nota\"\"\"" ∧
      ¬∀ line ∈ lines (wrapText "Grupo\nDados da nota" 4 16).toList, Fits 16 line := by
  refine ⟨by decide +kernel, fun hall => ?_⟩
  have hline : "Dados da nota\"\"\"".toList ∈
      (lines (delimited (trim "Grupo\nDados da nota".toList)
        (delimiter (trim "Grupo\nDados da nota".toList) 16))).tail := by
    decide +kernel
  exact (wrapText_fits_iff _ 4 16).2.2.mp hall _ hline ⟨3, by decide +kernel⟩

end Docstring
end SchemaModels

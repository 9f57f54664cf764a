/-
Filling lines with words.

`Filled` says what filling does without its loop: the rows hold the words in order with single
spaces between them, a row fits or is a single word, and a row ends only where the next word has no
room left.  So words that fit into the limit together are one row, and how many words a first row
takes is a matter of the words that open the line (`Filled.first_fits_iff`).
-/
import SchemaModels.Source.Docstring
import SchemaModels.Proofs.Text.Lines

namespace SchemaModels
namespace Docstring

open Text

/-! ## Rows -/

/-- Words with single spaces between them. -/
def IsRow (row : List Char) : Prop :=
  Spaced (words row) row ∧ joinWith [' '] (words row) = row

/-- The line has room, or holds a single word. -/
def Fits (room : Nat) (line : List Char) : Prop := line.length ≤ room ∨ (words line).length = 1

theorem Fits.mono {room more : Nat} {line : List Char} (h : Fits room line) (hle : room ≤ more) :
    Fits more line := h.imp_left fun hroom => Nat.le_trans hroom hle

theorem isRow_of_isWord {w : List Char} (hw : IsWord w) : IsRow w := by
  rw [IsRow, words_of_isWord hw]
  exact ⟨Spaced.word hw, rfl⟩

theorem fits_of_isWord {w : List Char} (hw : IsWord w) (room : Nat) : Fits room w := by
  right
  rw [words_of_isWord hw]
  rfl

theorem words_row_concat (row : List Char) {w : List Char} (hw : IsWord w) :
    words (row ++ [' '] ++ w) = words row ++ [w] := by
  rw [words_append_gap isGap_space, words_of_isWord hw]

theorem IsRow.concat {row w : List Char} (h : IsRow row) (hw : IsWord w) :
    IsRow (row ++ [' '] ++ w) := by
  rw [IsRow, words_row_concat row hw]
  refine ⟨h.1.append isGap_space (Spaced.word hw), ?_⟩
  rw [joinWith_append h.1.ne_nil (List.cons_ne_nil _ _), h.2]
  rfl

theorem IsRow.isLine {row : List Char} (h : IsRow row) : row ≠ [] ∧ '\n' ∉ row ∧ '\r' ∉ row := by
  have hspace : ∀ c ∈ row, isBlank c = true → c = ' ' := by
    intro c hc hblank
    rw [← h.2] at hc
    exact h.1.eq_space_of_mem hc hblank
  refine ⟨h.1.text_ne_nil, fun hc => ?_, fun hc => ?_⟩
  · exact absurd (hspace _ hc isBlank_newline) (by decide)
  · exact absurd (hspace _ hc isBlank_return) (by decide)

/-! ## Greedy filling -/

/-- Words on rows, the first of which has room for `limit` characters and the others for `width`. -/
inductive Filled (width : Nat) : Nat → List (List Char) → List (List Char) → Prop
  | nil (limit : Nat) : Filled width limit [] []
  | cons {limit : Nat} {row : List Char} {later rows : List (List Char)} (hrow : IsRow row)
      (hfits : Fits limit row) (hfull : ∀ w ∈ later.head?, limit < row.length + 1 + w.length)
      (hlater : Filled width width later rows) :
      Filled width limit (words row ++ later) (row :: rows)

theorem filled_fillFrom {ws : List (List Char)} (hws : ∀ w ∈ ws, IsWord w) {current : List Char}
    (hrow : IsRow current) {limit : Nat} (hfits : Fits limit current) (width : Nat) :
    Filled width limit (words current ++ ws) (fillFrom current limit width ws) := by
  have hsome : current.isEmpty = false := by simpa using hrow.1.text_ne_nil
  induction ws generalizing current limit with
  | nil =>
    rw [fillFrom, hsome, if_neg Bool.false_ne_true]
    exact Filled.cons hrow hfits (fun w hw => absurd hw (by simp)) (.nil width)
  | cons word rest ih =>
    obtain ⟨hword, hrest⟩ := List.forall_mem_cons.mp hws
    rw [fillFrom, hsome, if_neg Bool.false_ne_true]
    by_cases hlong : current.length + 1 + word.length > limit
    · have hnext := ih hrest (isRow_of_isWord hword) (fits_of_isWord hword width)
        (by simpa using hword.1)
      rw [words_of_isWord hword, List.singleton_append] at hnext
      rw [if_pos hlong]
      refine Filled.cons hrow hfits (fun w hw => ?_) hnext
      obtain rfl : word = w := by simpa using hw
      omega
    · have hroom : Fits limit (current ++ [' '] ++ word) := by
        left
        simp only [List.length_append, List.length_singleton]
        omega
      have hnext := ih hrest (hrow.concat hword) hroom (by simp)
      rw [words_row_concat current hword, List.append_assoc] at hnext
      rw [if_neg hlong]
      exact hnext

theorem filled_fill (line : List Char) (firstWidth width : Nat) :
    Filled width firstWidth (words line) (fill line firstWidth width) := by
  have hwords : ∀ w ∈ words line, IsWord w := fun w => isWord_of_mem_words
  rw [fill]
  cases hline : words line with
  | nil => exact Filled.nil firstWidth
  | cons w ws =>
    rw [hline] at hwords
    obtain ⟨hw, hws⟩ := List.forall_mem_cons.mp hwords
    have hfilled := filled_fillFrom hws (isRow_of_isWord hw) (fits_of_isWord hw firstWidth) width
    rwa [words_of_isWord hw] at hfilled

section Filled

variable {limit width : Nat} {ws rows : List (List Char)}

theorem Filled.isRow (h : Filled width limit ws rows) : ∀ row ∈ rows, IsRow row := by
  induction h with
  | nil limit => simp
  | cons hrow _ _ _ ih => exact List.forall_mem_cons.mpr ⟨hrow, ih⟩

theorem Filled.eq_nil_iff (h : Filled width limit ws rows) : ws = [] ↔ rows = [] := by
  cases h with
  | nil => simp
  | cons hrow => simp [hrow.1.ne_nil]

theorem Filled.fits (h : Filled width limit ws rows) :
    (∀ row ∈ rows.head?, Fits limit row) ∧ ∀ row ∈ rows.tail, Fits width row := by
  induction h with
  | nil limit => simp
  | @cons limit row later rows hrow hfits hfull hlater ih =>
    refine ⟨fun r hr => ?_, fun r hr => ?_⟩
    · obtain rfl : row = r := by simpa using hr
      exact hfits
    · cases rows with
      | nil => exact absurd hr List.not_mem_nil
      | cons next rows =>
        rcases List.mem_cons.mp hr with rfl | hmore
        · exact ih.1 r rfl
        · exact ih.2 r hmore

/-- Words that go on behind a full row do not fit into the limit. -/
theorem lt_length_of_full {row w : List Char} (hrow : IsRow row)
    (hfull : limit < row.length + 1 + w.length) (hmore : words row ++ [w] <+: ws) :
    limit < (joinWith [' '] ws).length := by
  have hlonger : (joinWith [' '] (words row ++ [w])).length ≤ (joinWith [' '] ws).length :=
    length_joinWith_le_of_prefix hmore
  rw [length_joinWith_concat hrow.1.ne_nil, hrow.2, List.length_singleton] at hlonger
  omega

/-- Words that fit into the limit are one row. -/
theorem Filled.eq_singleton (h : Filled width limit ws rows) (hsome : ws ≠ [])
    (hfits : (joinWith [' '] ws).length ≤ limit) : rows = [joinWith [' '] ws] := by
  cases h with
  | nil => exact absurd rfl hsome
  | @cons _ row later rows hrow _ hfull hlater =>
    cases later with
    | nil => rw [hlater.eq_nil_iff.mp rfl, List.append_nil, hrow.2]
    | cons w later =>
      have hmore : words row ++ [w] <+: words row ++ w :: later := ⟨later, by simp⟩
      have hover := lt_length_of_full hrow (hfull w rfl) hmore
      omega

/-- The first `k` words of a line on one row. -/
def opening (k : Nat) (ws : List (List Char)) : List Char := joinWith [' '] (ws.take k)

/-- Two or more words that open a line and fit into it are on its first row, and the longest such
opening is the row. -/
theorem Filled.first_fits_iff {row : List Char} (h : Filled width limit ws (row :: rows))
    (room : Nat) :
    Fits room row ↔ ∀ k, 2 ≤ k → k ≤ ws.length → (opening k ws).length ≤ limit →
      (opening k ws).length ≤ room := by
  cases h with
  | @cons _ _ later _ hrow hfits hfull hlater =>
    have hwhole : opening (words row).length (words row ++ later) = row := by
      rw [opening, List.take_left' rfl, hrow.2]
    constructor
    · intro hroom k htwo hk hlimit
      have hshort : k ≤ (words row).length := by
        by_contra hlong
        rw [List.length_append] at hk
        obtain ⟨w, more, rfl⟩ : ∃ w more, later = w :: more :=
          List.exists_cons_of_length_pos (by omega)
        have hmore : words row ++ [w] <+: (words row ++ w :: more).take k := by
          rw [List.prefix_take_iff]
          refine ⟨⟨more, by simp⟩, ?_⟩
          simp only [List.length_append, List.length_singleton]
          omega
        have hover : limit < (opening k (words row ++ w :: more)).length :=
          lt_length_of_full hrow (hfull w rfl) hmore
        omega
      have hpart : (opening k (words row ++ later)).length ≤ row.length := by
        conv_rhs => rw [← hrow.2]
        rw [opening, List.take_append_of_le_length hshort]
        exact length_joinWith_le_of_prefix (List.take_prefix k _)
      rcases hroom with hroom | hsingle
      · omega
      · omega
    · intro hall
      by_cases hsingle : (words row).length = 1
      · exact .inr hsingle
      · have hpos := List.length_pos_iff.mpr hrow.1.ne_nil
        have hlimit := hfits.resolve_right hsingle
        have hroom := hall (words row).length (by omega) (by simp) (by rwa [hwhole])
        rw [hwhole] at hroom
        exact .inl hroom

end Filled

theorem fits_of_mem_fill {line row : List Char} {firstWidth width : Nat} (hle : width ≤ firstWidth)
    (hrow : row ∈ fill line firstWidth width) : Fits firstWidth row := by
  have hfits := (filled_fill line firstWidth width).fits
  cases hrows : fill line firstWidth width with
  | nil => exact absurd (hrows ▸ hrow) List.not_mem_nil
  | cons first rows =>
    rw [hrows] at hfits hrow
    rcases List.mem_cons.mp hrow with rfl | hmore
    · exact hfits.1 row rfl
    · exact (hfits.2 row hmore).mono hle

end Docstring
end SchemaModels

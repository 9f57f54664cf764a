/-
The lines of a text.

A text that is put together from rows, with a newline and some margin between any two of them, has
these rows as its lines: the first as it is, the others behind the margin.  Rows count as lines only
if none of them is empty, breaks, or holds a carriage return, which a line loses at its end.
-/
import SchemaModels.Proofs.Text.Words

namespace SchemaModels
namespace Text

/-! ## Joined pieces -/

theorem length_joinWith_concat {separator : List Char} {items : List (List Char)}
    (h : items ≠ []) (item : List Char) :
    (joinWith separator (items ++ [item])).length =
      (joinWith separator items).length + separator.length + item.length := by
  rw [joinWith_append h (List.cons_ne_nil _ _), List.length_append, List.length_append]
  rfl

theorem length_joinWith_le_of_prefix {separator : List Char} {items more : List (List Char)}
    (h : items <+: more) :
    (joinWith separator items).length ≤ (joinWith separator more).length := by
  obtain ⟨later, rfl⟩ := h
  by_cases hitems : items = []
  · simp [hitems, joinWith]
  by_cases hlater : later = []
  · simp [hlater]
  · rw [joinWith_append hitems hlater, List.length_append, List.length_append]
    omega

/-! ## Lines -/

theorem chomp_eq_self {line : List Char} (h : '\r' ∉ line) : chomp line = line := by
  rw [chomp]
  cases hend : before? ['\r'] line with
  | none => rfl
  | some head =>
    rw [before?_eq_some_iff.mp hend] at h
    exact absurd h (by simp)

theorem closeLines_eq_self {items : List (List Char)}
    (h : ∀ item ∈ items, item ≠ [] ∧ '\r' ∉ item) : closeLines items = items := by
  induction items with
  | nil => rfl
  | cons item rest ih =>
    obtain ⟨hitem, hrest⟩ := List.forall_mem_cons.mp h
    cases rest with
    | nil => rw [closeLines, if_neg (by simpa using hitem.1)]
    | cons other rest => rw [closeLines, chomp_eq_self hitem.2, ih hrest]; simp

theorem pieces_joinWith {margin : List Char} (hmargin : '\n' ∉ margin) {row : List Char}
    {rows : List (List Char)} (h : ∀ r ∈ row :: rows, '\n' ∉ r) :
    pieces (· == '\n') (joinWith ('\n' :: margin) (row :: rows)) =
      row :: rows.map (margin ++ ·) := by
  have hpiece : ∀ {r : List Char}, '\n' ∉ r → pieces (· == '\n') r = [r] := by
    intro r hr
    exact pieces_of_no_separator fun c hc => by simpa using ne_of_mem_of_not_mem hc hr
  induction rows generalizing row with
  | nil => exact hpiece (h row List.mem_cons_self)
  | cons next rows ih =>
    obtain ⟨hrow, hrows⟩ := List.forall_mem_cons.mp h
    obtain ⟨hnext, hlater⟩ := List.forall_mem_cons.mp hrows
    have hbehind : '\n' ∉ margin ++ next := by simp [hmargin, hnext]
    have hjoined : joinWith ('\n' :: margin) (row :: next :: rows) =
        row ++ '\n' :: joinWith ('\n' :: margin) ((margin ++ next) :: rows) := by
      cases rows <;> simp [joinWith]
    rw [hjoined, pieces_append (by rfl), hpiece hrow,
      ih (List.forall_mem_cons.mpr ⟨hbehind, hlater⟩)]
    rfl

theorem lines_joinWith {margin : List Char} (hmargin : '\n' ∉ margin ∧ '\r' ∉ margin)
    {row : List Char} {rows : List (List Char)}
    (h : ∀ r ∈ row :: rows, r ≠ [] ∧ '\n' ∉ r ∧ '\r' ∉ r) :
    lines (joinWith ('\n' :: margin) (row :: rows)) = row :: rows.map (margin ++ ·) := by
  rw [lines, pieces_joinWith hmargin.1 fun r hr => (h r hr).2.1]
  obtain ⟨hrow, hrows⟩ := List.forall_mem_cons.mp h
  refine closeLines_eq_self (List.forall_mem_cons.mpr ⟨⟨hrow.1, hrow.2.2⟩, fun line hline => ?_⟩)
  obtain ⟨r, hr, rfl⟩ := List.mem_map.mp hline
  exact ⟨by simp [(hrows r hr).1], by simp [hmargin.2, (hrows r hr).2.2]⟩

theorem lines_of_no_newline {s : List Char} (hsome : s ≠ []) (h : '\n' ∉ s) : lines s = [s] := by
  rw [lines, pieces_of_no_separator fun c hc => by simpa using ne_of_mem_of_not_mem hc h,
    closeLines, if_neg (by simpa using hsome)]

/-- A text that begins with no white space has a first line, and words on it. -/
theorem exists_lines_cons {s : List Char} (hsome : s ≠ [])
    (hfirst : ∀ c ∈ s.head?, isBlank c = false) :
    ∃ line later, lines s = line :: later ∧ words line ≠ [] := by
  obtain ⟨c, s, rfl⟩ := List.exists_cons_of_ne_nil hsome
  have hc : isBlank c = false := hfirst c rfl
  have hbreak : (c == '\n') = false := by
    rw [beq_eq_false_iff_ne]
    rintro rfl
    exact absurd (isBlank_newline.symm.trans hc) (by decide)
  have hwords : ∀ r : List Char, words (c :: r) ≠ [] := by
    intro r
    obtain ⟨piece, rest, hr⟩ : ∃ piece rest, pieces isBlank r = piece :: rest :=
      List.exists_cons_of_ne_nil (pieces_ne_nil r)
    rw [words, pieces, hc, hr]
    simp
  obtain ⟨piece, rest, hs⟩ : ∃ piece rest, pieces (· == '\n') s = piece :: rest :=
    List.exists_cons_of_ne_nil (pieces_ne_nil s)
  rw [lines, pieces, hbreak, hs]
  cases rest with
  | nil => exact ⟨c :: piece, [], rfl, hwords piece⟩
  | cons other rest =>
    exact ⟨chomp (c :: piece), closeLines (other :: rest), rfl, by
      rw [words_chomp]
      exact hwords piece⟩

end Text
end SchemaModels

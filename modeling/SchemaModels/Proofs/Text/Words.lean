/-
Words and the white space between them.

`Spaced ws s` says that the text is made of the words in order, with white space between any two of
them and at neither end.  A text with no white space at its ends is spaced from its own words, and
the words of a text are those of its lines.
-/
import Mathlib.Data.List.TakeWhile
import SchemaModels.Proofs.Text.Split

namespace SchemaModels
namespace Text

/-- A word has characters, and none of them is white space. -/
def IsWord (w : List Char) : Prop := w ≠ [] ∧ ∀ c ∈ w, isBlank c = false

/-- A gap is white space, and some of it. -/
def IsGap (s : List Char) : Prop := s ≠ [] ∧ ∀ c ∈ s, isBlank c = true

inductive Spaced : List (List Char) → List Char → Prop
  | word {w : List Char} (hw : IsWord w) : Spaced [w] w
  | cons {w gap s : List Char} {ws : List (List Char)} (hw : IsWord w) (hgap : IsGap gap)
      (hs : Spaced ws s) : Spaced (w :: ws) (w ++ gap ++ s)

theorem isBlank_space : isBlank ' ' = true := by decide

theorem isBlank_newline : isBlank '\n' = true := by decide

theorem isBlank_return : isBlank '\r' = true := by decide

theorem isGap_space : IsGap [' '] :=
  ⟨List.cons_ne_nil _ _, List.forall_mem_singleton.mpr isBlank_space⟩

/-! ## Pieces -/

section Pieces

variable {isSeparator : Char → Bool}

theorem pieces_ne_nil (s : List Char) : pieces isSeparator s ≠ [] := by
  cases s with
  | nil => simp [pieces]
  | cons c s =>
    rw [pieces]
    split
    · simp
    · split <;> simp

theorem pieces_append {b : Char} (hb : isSeparator b = true) (s t : List Char) :
    pieces isSeparator (s ++ b :: t) = pieces isSeparator s ++ pieces isSeparator t := by
  induction s with
  | nil => simp [pieces, hb]
  | cons c s ih =>
    rw [List.cons_append, pieces, ih, pieces]
    by_cases hc : isSeparator c = true
    · simp [hc]
    · cases hs : pieces isSeparator s with
      | nil => exact absurd hs (pieces_ne_nil s)
      | cons piece rest => simp [hc]

theorem pieces_of_no_separator {s : List Char} (h : ∀ c ∈ s, isSeparator c = false) :
    pieces isSeparator s = [s] := by
  induction s with
  | nil => rfl
  | cons c s ih =>
    obtain ⟨hc, hs⟩ := List.forall_mem_cons.mp h
    rw [pieces, ih hs, hc]
    rfl

theorem not_separator_of_mem_pieces {s piece : List Char} (h : piece ∈ pieces isSeparator s) :
    ∀ c ∈ piece, isSeparator c = false := by
  induction s generalizing piece with
  | nil => simp_all [pieces]
  | cons c s ih =>
    rw [pieces] at h
    split at h
    · rcases List.mem_cons.mp h with rfl | hpiece
      · simp
      · exact ih hpiece
    · rename_i hc
      cases hs : pieces isSeparator s with
      | nil => exact absurd hs (pieces_ne_nil s)
      | cons first rest =>
        rw [hs] at h ih
        rcases List.mem_cons.mp h with rfl | hpiece
        · exact List.forall_mem_cons.mpr ⟨Bool.eq_false_iff.mpr hc, ih List.mem_cons_self⟩
        · exact ih (List.mem_cons_of_mem _ hpiece)

end Pieces

theorem joinWith_cons {separator piece : List Char} {rest : List (List Char)} (h : rest ≠ []) :
    joinWith separator (piece :: rest) = piece ++ separator ++ joinWith separator rest := by
  cases rest with
  | nil => exact absurd rfl h
  | cons other rest => rfl

theorem joinWith_append {separator : List Char} {items more : List (List Char)} (hitems : items ≠ [])
    (hmore : more ≠ []) :
    joinWith separator (items ++ more) =
      joinWith separator items ++ separator ++ joinWith separator more := by
  induction items with
  | nil => exact absurd rfl hitems
  | cons item items ih =>
    by_cases hrest : items = []
    · rw [hrest, List.singleton_append, joinWith_cons hmore, joinWith]
    · rw [List.cons_append, joinWith_cons (by simp [hrest]), joinWith_cons hrest, ih hrest]
      simp only [List.append_assoc]

theorem joinWith_pieces (b : Char) (s : List Char) : joinWith [b] (pieces (· == b) s) = s := by
  induction s with
  | nil => rfl
  | cons c s ih =>
    rw [pieces]
    by_cases hc : (c == b) = true
    · rw [if_pos hc, joinWith_cons (pieces_ne_nil s), ih, beq_iff_eq.mp hc]
      rfl
    · rw [if_neg hc]
      cases hs : pieces (· == b) s with
      | nil => exact absurd hs (pieces_ne_nil s)
      | cons piece rest =>
        rw [hs] at ih
        cases rest with
        | nil => rw [joinWith, ← ih, joinWith]
        | cons other rest =>
          rw [joinWith_cons (List.cons_ne_nil _ _)] at ih ⊢
          rw [← ih]
          rfl

/-! ## Words -/

theorem words_append {b : Char} (hb : isBlank b = true) (s t : List Char) :
    words (s ++ b :: t) = words s ++ words t := by
  rw [words, pieces_append hb, List.filter_append]
  rfl

theorem words_cons {b : Char} (hb : isBlank b = true) (s : List Char) :
    words (b :: s) = words s := words_append hb [] s

theorem words_of_isWord {w : List Char} (hw : IsWord w) : words w = [w] := by
  rw [words, pieces_of_no_separator hw.2, List.filter_cons_of_pos (by simp [hw.1]), List.filter_nil]

theorem isWord_of_mem_words {s w : List Char} (hw : w ∈ words s) : IsWord w := by
  obtain ⟨hpiece, hsome⟩ := List.mem_filter.mp hw
  exact ⟨by simpa using hsome, not_separator_of_mem_pieces hpiece⟩

theorem words_append_gap {gap : List Char} (hgap : IsGap gap) (s t : List Char) :
    words (s ++ gap ++ t) = words s ++ words t := by
  obtain ⟨hsome, hblanks⟩ := hgap
  obtain ⟨b, more, rfl⟩ := List.exists_cons_of_ne_nil hsome
  obtain ⟨hb, hmore⟩ := List.forall_mem_cons.mp hblanks
  have hskip : ∀ more : List Char, (∀ c ∈ more, isBlank c = true) →
      words (more ++ t) = words t := by
    intro more hmore
    induction more with
    | nil => rfl
    | cons c more ih =>
      obtain ⟨hc, hmore⟩ := List.forall_mem_cons.mp hmore
      rw [List.cons_append, words_cons hc, ih hmore]
  rw [List.append_assoc, List.cons_append, words_append hb, hskip more hmore]

theorem words_joinWith {b : Char} (hb : isBlank b = true) (items : List (List Char)) :
    words (joinWith [b] items) = items.flatMap words := by
  induction items with
  | nil => rfl
  | cons item rest ih =>
    by_cases hrest : rest = []
    · subst hrest
      simp [joinWith]
    · rw [joinWith_cons hrest, List.append_assoc, List.singleton_append, words_append hb, ih,
        List.flatMap_cons]

theorem words_chomp (line : List Char) : words (chomp line) = words line := by
  rw [chomp]
  cases hend : before? ['\r'] line with
  | none => rfl
  | some head =>
    rw [before?_eq_some_iff.mp hend, words_append isBlank_return]
    exact (List.append_nil _).symm

/-- The words of a text are those of its lines. -/
theorem flatMap_words_lines (s : List Char) : (lines s).flatMap words = words s := by
  have hclose : ∀ items, (closeLines items).flatMap words = items.flatMap words := by
    intro items
    induction items with
    | nil => rfl
    | cons line rest ih =>
      cases rest with
      | nil => cases line <;> rfl
      | cons other rest =>
        rw [closeLines, List.flatMap_cons, ih, words_chomp, ← List.flatMap_cons]
        exact List.cons_ne_nil _ _
  rw [lines, hclose, ← words_joinWith isBlank_newline, joinWith_pieces]

/-! ## Texts made of words -/

theorem Spaced.ne_nil {ws : List (List Char)} {s : List Char} (h : Spaced ws s) : ws ≠ [] := by
  cases h <;> exact List.cons_ne_nil _ _

theorem Spaced.text_ne_nil {ws : List (List Char)} {s : List Char} (h : Spaced ws s) : s ≠ [] := by
  cases h with
  | word hw => exact hw.1
  | cons hw => simp [hw.1]

theorem Spaced.append {ws vs : List (List Char)} {s t gap : List Char} (hs : Spaced ws s)
    (hgap : IsGap gap) (ht : Spaced vs t) : Spaced (ws ++ vs) (s ++ gap ++ t) := by
  induction hs with
  | word hw => exact Spaced.cons hw hgap ht
  | cons hw hgap' _ ih =>
    have hcons := Spaced.cons hw hgap' ih
    simpa only [List.append_assoc, List.cons_append] using hcons

theorem Spaced.words_eq {ws : List (List Char)} {s : List Char} (h : Spaced ws s) :
    words s = ws := by
  induction h with
  | word hw => exact words_of_isWord hw
  | cons hw hgap _ ih => rw [words_append_gap hgap, words_of_isWord hw, ih, List.singleton_append]

theorem Spaced.length_le {ws : List (List Char)} {s : List Char} (h : Spaced ws s) :
    (Text.joinWith [' '] ws).length ≤ s.length := by
  induction h with
  | word _ => exact Nat.le_refl _
  | cons _ hgap hs ih =>
    have := List.length_pos_iff.mpr hgap.1
    rw [joinWith_cons hs.ne_nil]
    simp only [List.length_append, List.length_cons, List.length_nil] at ih ⊢
    omega

theorem Spaced.eq_space_of_mem {ws : List (List Char)} {s : List Char} (h : Spaced ws s) {c : Char}
    (hc : c ∈ Text.joinWith [' '] ws) (hblank : isBlank c = true) : c = ' ' := by
  have hword : ∀ {w}, IsWord w → c ∉ w := fun hw hmem => by
    rw [hw.2 c hmem] at hblank
    exact absurd hblank (by decide)
  induction h with
  | word hw => exact absurd hc (hword hw)
  | cons hw _ hs ih =>
    rw [joinWith_cons hs.ne_nil, List.append_assoc] at hc
    rcases List.mem_append.mp hc with hmem | hc
    · exact absurd hmem (hword hw)
    rcases List.mem_append.mp hc with hspace | hc
    · exact List.mem_singleton.mp hspace
    · exact ih hc

/-- What begins with no white space at all begins the text just if it begins the first word. -/
theorem Spaced.prefix_iff {ws : List (List Char)} {s start : List Char} (hs : Spaced ws s)
    (hstart : ∀ c ∈ start, isBlank c = false) : start <+: s ↔ ∃ w ∈ ws.head?, start <+: w := by
  cases hs with
  | word _ => simp
  | @cons w gap s ws _ hgap _ =>
    simp only [List.head?_cons, Option.mem_some_iff, exists_eq_left']
    constructor
    · intro h
      rw [List.append_assoc] at h
      rcases List.prefix_or_prefix_of_prefix h (List.prefix_append w _) with hw | ⟨more, rfl⟩
      · exact hw
      · -- What the prefix has behind the word would begin with the gap.
        have hmore := (List.prefix_append_right_inj w).mp h
        cases more with
        | nil => simp
        | cons c more =>
          obtain ⟨b, gap, rfl⟩ := List.exists_cons_of_ne_nil hgap.1
          obtain ⟨rfl, -⟩ := List.cons_prefix_cons.mp hmore
          have hblank := hgap.2 c List.mem_cons_self
          rw [hstart c (by simp)] at hblank
          exact absurd hblank (by decide)
    · intro h
      rw [List.append_assoc]
      exact h.trans (List.prefix_append w _)

/-- A function that does not see which white space it meets, nor how much of it, comes to the same
result on the words with single spaces between them. -/
theorem Spaced.foldl_eq {σ : Type} {f : σ → Char → σ}
    (hblank : ∀ a c, isBlank c = true → f a c = f a ' ') (hspace : ∀ a, f (f a ' ') ' ' = f a ' ')
    {ws : List (List Char)} {s : List Char} (h : Spaced ws s) (a : σ) :
    s.foldl f a = (Text.joinWith [' '] ws).foldl f a := by
  have hmore : ∀ gap : List Char, (∀ c ∈ gap, isBlank c = true) → ∀ a,
      gap.foldl f (f a ' ') = f a ' ' := by
    intro gap hblanks a
    induction gap with
    | nil => rfl
    | cons c gap ih =>
      obtain ⟨hc, hblanks⟩ := List.forall_mem_cons.mp hblanks
      rw [List.foldl_cons, hblank _ c hc, hspace, ih hblanks]
  have hgap : ∀ {gap : List Char}, IsGap gap → ∀ a, gap.foldl f a = f a ' ' := by
    rintro gap ⟨hsome, hblanks⟩ a
    obtain ⟨c, gap, rfl⟩ := List.exists_cons_of_ne_nil hsome
    obtain ⟨hc, hblanks⟩ := List.forall_mem_cons.mp hblanks
    rw [List.foldl_cons, hblank a c hc, hmore gap hblanks]
  induction h generalizing a with
  | word _ => rfl
  | cons _ hbetween hs ih =>
    rw [joinWith_cons hs.ne_nil]
    simp only [List.foldl_append, hgap hbetween, hgap isGap_space, ih]

/-- A text that begins with no white space begins with a word, and white space is behind it. -/
theorem exists_first_word {s : List Char} (hfirst : ∀ c ∈ s.head?, isBlank c = false)
    (hs : s ≠ []) :
    ∃ w rest, s = w ++ rest ∧ IsWord w ∧ ∀ c ∈ rest.head?, isBlank c = true := by
  refine ⟨s.takeWhile fun c => !isBlank c, s.dropWhile fun c => !isBlank c,
    List.takeWhile_append_dropWhile.symm, ⟨?_, fun c hc => ?_⟩, fun c hc => ?_⟩
  · obtain ⟨c, rest, rfl⟩ := List.exists_cons_of_ne_nil hs
    have hc : isBlank c = false := hfirst c rfl
    simp [hc]
  · simpa using List.mem_takeWhile_imp hc
  · have hstop := List.head?_dropWhile_not (fun c => !isBlank c) s
    rw [Option.mem_def.mp hc] at hstop
    simpa using hstop

theorem exists_first_gap {b : Char} (hb : isBlank b = true) (s : List Char) :
    ∃ gap rest, b :: s = gap ++ rest ∧ IsGap gap ∧ ∀ c ∈ rest.head?, isBlank c = false := by
  refine ⟨b :: s.takeWhile isBlank, s.dropWhile isBlank, ?_, ⟨List.cons_ne_nil _ _, ?_⟩,
    fun c hc => ?_⟩
  · rw [List.cons_append, List.takeWhile_append_dropWhile]
  · exact List.forall_mem_cons.mpr ⟨hb, fun c hc => List.mem_takeWhile_imp hc⟩
  · have hstop := List.head?_dropWhile_not isBlank s
    rw [Option.mem_def.mp hc] at hstop
    simpa using hstop

/-- A text with no white space at its ends is spaced from its words. -/
theorem spaced_words {s : List Char} (hfirst : ∀ c ∈ s.head?, isBlank c = false)
    (hlast : ∀ c ∈ s.getLast?, isBlank c = false) (hs : s ≠ []) : Spaced (words s) s := by
  induction hlength : s.length using Nat.strongRecOn generalizing s with
  | ind n ih =>
    subst hlength
    obtain ⟨w, rest, rfl, hw, hrest⟩ := exists_first_word hfirst hs
    cases rest with
    | nil =>
      rw [List.append_nil, words_of_isWord hw]
      exact Spaced.word hw
    | cons b rest =>
      obtain ⟨gap, tail, hparts, hgap, htail⟩ := exists_first_gap (hrest b rfl) rest
      rw [hparts] at hlast ih ⊢
      have hsome : tail ≠ [] := by
        rintro rfl
        obtain ⟨before, c, rfl⟩ := (List.eq_nil_or_concat gap).resolve_left hgap.1
        have hblank := hgap.2 c (by simp)
        rw [hlast c (by simp)] at hblank
        exact absurd hblank (by decide)
      have hend : (w ++ (gap ++ tail)).getLast? = tail.getLast? := by
        rw [← List.append_assoc, List.getLast?_append_of_ne_nil _ hsome]
      have hshorter : tail.length < (w ++ (gap ++ tail)).length := by
        have := List.length_pos_iff.mpr hgap.1
        simp only [List.length_append]
        omega
      have hlater := ih _ hshorter htail (hend ▸ hlast) hsome rfl
      rw [← List.append_assoc, words_append_gap hgap, words_of_isWord hw]
      exact Spaced.cons hw hgap hlater

end Text
end SchemaModels

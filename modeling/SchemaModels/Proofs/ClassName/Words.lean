/-
Where the words of a name begin.

Reading a name up to a character that belongs to a word leaves closed words and the word begun last,
whatever comes next; and a word that is begun only grows.  So there is a boundary behind such a
character just if what comes next closes the word, which a separator does and a capital that does
not follow a capital.  With `flatten_splitWords` this settles all words of a name, and no path name
made from them has a dot.
-/
import SchemaModels.Proofs.Occurrence

namespace SchemaModels

open Text

/-- A word ends where this much text is in the words before. -/
def IsBoundary (words : List (List Char)) (before : List Char) : Prop :=
  ∃ left, left <+: words ∧ left.flatten = before

/-! ## Reading on -/

theorem splitWordsFrom_after {c : Char} (hc : separatesWords c = false)
    (previous : Option LetterCase) (word before : List Char) :
    ∃ closed begun, begun ≠ [] ∧
      closed.flatten ++ begun = word ++ unseparated (before ++ [c]) ∧
      ∀ rest, splitWordsFrom previous word (before ++ c :: rest) =
        closed ++ splitWordsFrom (some (LetterCase.of c)) begun rest := by
  -- What is closed and what is begun is chosen before it is known what comes next.
  induction before generalizing previous word with
  | nil =>
    rw [List.nil_append, unseparated_cons_of_not_separates hc]
    cases hstart : startsWord previous c with
    | true =>
      refine ⟨closeWord word, [c], List.cons_ne_nil c [], ?_, fun rest => ?_⟩
      · rw [flatten_closeWord]
        rfl
      · exact splitWordsFrom_of_starts word rest hstart
    | false =>
      refine ⟨[], word ++ [c], List.concat_ne_nil c word, rfl, fun rest => ?_⟩
      exact splitWordsFrom_of_continues word rest hc hstart
  | cons d before ih =>
    rw [List.cons_append]
    cases hd : separatesWords d with
    | true =>
      obtain ⟨closed, begun, hbegun, hread, hrest⟩ := ih (some .other) []
      refine ⟨closeWord word ++ closed, begun, hbegun, ?_, fun rest => ?_⟩
      · rw [List.flatten_append, flatten_closeWord, List.append_assoc, hread,
          unseparated_cons_of_separates hd]
        rfl
      · rw [List.cons_append, splitWordsFrom_of_separates word _ hd, hrest, List.append_assoc]
    | false =>
      rw [unseparated_cons_of_not_separates hd]
      cases hstart : startsWord previous d with
      | true =>
        obtain ⟨closed, begun, hbegun, hread, hrest⟩ := ih (some (LetterCase.of d)) [d]
        refine ⟨closeWord word ++ closed, begun, hbegun, ?_, fun rest => ?_⟩
        · rw [List.flatten_append, flatten_closeWord, List.append_assoc, hread]
          rfl
        · rw [List.cons_append, splitWordsFrom_of_starts word _ hstart, hrest, List.append_assoc]
      | false =>
        obtain ⟨closed, begun, hbegun, hread, hrest⟩ := ih (some (LetterCase.of d)) (word ++ [d])
        refine ⟨closed, begun, hbegun, ?_, fun rest => ?_⟩
        · rw [hread, List.append_assoc]
          rfl
        · rw [List.cons_append, splitWordsFrom_of_continues word _ hd hstart, hrest]

theorem splitWordsFrom_of_ne_nil {word : List Char} (hword : word ≠ [])
    (previous : Option LetterCase) (name : List Char) :
    ∃ more others, splitWordsFrom previous word name = (word ++ more) :: others := by
  induction name generalizing previous word with
  | nil => exact ⟨[], [], by rw [splitWordsFrom, closeWord_of_ne_nil hword, List.append_nil]⟩
  | cons c rest ih =>
    have hclosed : ∀ words, closeWord word ++ words = (word ++ []) :: words := fun words => by
      rw [closeWord_of_ne_nil hword, List.append_nil, List.singleton_append]
    rcases splitWordsFrom_cons_cases word rest previous c with ⟨-, h⟩ | ⟨-, h⟩ | ⟨-, h⟩
    · exact ⟨[], _, h.trans (hclosed _)⟩
    · exact ⟨[], _, h.trans (hclosed _)⟩
    · obtain ⟨more, others, hread⟩ := ih (List.concat_ne_nil c word) (some (LetterCase.of c))
      refine ⟨c :: more, others, ?_⟩
      rw [h, hread, List.append_assoc, List.singleton_append]

theorem ne_nil_of_mem_splitWordsFrom {previous : Option LetterCase} {word w name : List Char}
    (h : w ∈ splitWordsFrom previous word name) : w ≠ [] := by
  induction name generalizing previous word with
  | nil => exact ne_nil_of_mem_closeWord h
  | cons c rest ih =>
    rcases splitWordsFrom_cons_cases word rest previous c with ⟨-, hread⟩ | ⟨-, hread⟩ | ⟨-, hread⟩
    · rw [hread, List.mem_append] at h
      exact h.elim ne_nil_of_mem_closeWord ih
    · rw [hread, List.mem_append] at h
      exact h.elim ne_nil_of_mem_closeWord ih
    · rw [hread] at h
      exact ih h

/-! ## Boundaries -/

/-- There is no boundary inside a word. -/
theorem not_isBoundary_inside {closed others : List (List Char)} {begun more : List Char}
    (hbegun : begun ≠ []) (hmore : more ≠ []) :
    ¬IsBoundary (closed ++ (begun ++ more) :: others) (closed.flatten ++ begun) := by
  rintro ⟨left, hleft, hflatten⟩
  have hlength := congrArg List.length hflatten
  have hbegunLength := List.length_pos_iff.mpr hbegun
  have hmoreLength := List.length_pos_iff.mpr hmore
  rcases List.prefix_or_prefix_of_prefix hleft (List.prefix_append closed _) with hshort | hlong
  · obtain ⟨last, rfl⟩ := hshort
    simp only [List.flatten_append, List.length_append] at hlength
    omega
  · obtain ⟨next, rfl⟩ := hlong
    cases next with
    | nil =>
      simp only [List.append_nil, List.length_append] at hlength
      omega
    | cons w next =>
      obtain ⟨rfl, -⟩ := List.cons_prefix_cons.mp ((List.prefix_append_right_inj closed).mp hleft)
      simp only [List.flatten_append, List.flatten_cons, List.length_append] at hlength
      omega

theorem isBoundary_closed (closed others : List (List Char)) (word : List Char) :
    IsBoundary (closed ++ word :: others) (closed.flatten ++ word) :=
  ⟨closed ++ [word], ⟨others, by simp⟩, by simp⟩

theorem startsWord_some_iff {c d : Char} :
    startsWord (some (LetterCase.of c)) d = true ↔ isUpper d = true ∧ isUpper c = false := by
  have hcapital : LetterCase.of c ≠ .upper ↔ isUpper c = false := by
    rw [Ne, letterCase_eq_upper_iff, Bool.not_eq_true]
  simp only [startsWord, Option.any_some, Bool.and_eq_true, decide_eq_true_eq, hcapital]

theorem isBoundary_splitWords_iff {before gap after : List Char} {c d : Char}
    (hc : separatesWords c = false) (hd : separatesWords d = false)
    (hgap : ∀ s ∈ gap, separatesWords s = true) :
    IsBoundary (splitWords (before ++ c :: (gap ++ d :: after))) (unseparated (before ++ [c])) ↔
      gap ≠ [] ∨ isUpper d = true ∧ isUpper c = false := by
  obtain ⟨closed, begun, hbegun, hread, hrest⟩ := splitWordsFrom_after hc none [] before
  rw [List.nil_append] at hread
  rw [splitWords, hrest, ← hread]
  cases gap with
  | cons s gap =>
    have hs := hgap s List.mem_cons_self
    rw [List.cons_append, splitWordsFrom_of_separates begun _ hs, closeWord_of_ne_nil hbegun]
    exact iff_of_true (isBoundary_closed _ _ _) (Or.inl (List.cons_ne_nil s gap))
  | nil =>
    rw [List.nil_append, ← startsWord_some_iff]
    cases hstart : startsWord (some (LetterCase.of c)) d with
    | true =>
      rw [splitWordsFrom_of_starts begun after hstart, closeWord_of_ne_nil hbegun]
      exact iff_of_true (isBoundary_closed _ _ _) (Or.inr rfl)
    | false =>
      rw [splitWordsFrom_of_continues begun after hd hstart]
      obtain ⟨more, others, hwords⟩ :=
        splitWordsFrom_of_ne_nil (List.concat_ne_nil d begun) (some (LetterCase.of d)) after
      rw [hwords, List.append_assoc, List.singleton_append]
      exact iff_of_false (not_isBoundary_inside hbegun (List.cons_ne_nil d more)) (by simp)

/-- The words of a name are not empty and make up the name without its separators.  Of two of their
characters with nothing but separators between them the second begins a word just if there is a
separator, or it is a capital and the first is not.  So path names have no dots, and two ways down to
classes, from whatever roots, have one dotted path only if they have one path. -/
theorem words_begin_at_capitals (name : String) :
    let words := splitWords name.toList
    (∀ word ∈ words, word ≠ []) ∧
    words.flatten = unseparated name.toList ∧
    (∀ before c gap d after, name.toList = before ++ c :: (gap ++ d :: after) →
      separatesWords c = false → separatesWords d = false →
      (∀ s ∈ gap, separatesWords s = true) →
      (IsBoundary words (unseparated (before ++ [c])) ↔
        gap ≠ [] ∨ isUpper d = true ∧ isUpper c = false)) ∧
    '.' ∉ (className name).toList ∧
    ∀ (f : Forest) (roots roots' : List Nat),
      ∀ o ∈ f.listed roots, ∀ p ∈ f.listed roots', o.path ≠ p.path → o.key ≠ p.key := by
  intro words
  refine ⟨fun word hword => ne_nil_of_mem_splitWordsFrom hword, flatten_splitWords name.toList,
    ?boundary, dot_not_mem_className name, ?keys⟩
  case boundary =>
    intro before c gap d after hname hc hd hgap
    show IsBoundary (splitWords name.toList) _ ↔ _
    rw [hname]
    exact isBoundary_splitWords_iff hc hd hgap
  case keys =>
    intro f roots roots' o ho p hp hpath hkey
    have hway := Forest.isOccurrence_of_mem_listed ho
    have hway' := Forest.isOccurrence_of_mem_listed hp
    exact hpath (hway.path_eq_of_key_eq hway' hkey)

/-- A capital behind a capital begins no word, one behind a digit does, and so does a small letter
behind two separators; and an item is reached as a root and within its document. -/
theorem events_begin_words :
    let words := splitWords "TRet_-evento2X".toList
    let f := Forest.ofTrees [.node { qname := "Doc", name := "TDoc" }
      [.node { qname := "Item", name := "itemDoc" } []]]
    words = ["TRet".toList, "evento2".toList, "X".toList] ∧
      ¬IsBoundary words ['T'] ∧ IsBoundary words ['T', 'R', 'e', 't'] ∧
      IsBoundary words ['T', 'R', 'e', 't', 'e', 'v', 'e', 'n', 't', 'o', '2'] ∧
      ∃ o ∈ f.occurrences [1, 0], ∃ p ∈ f.occurrences [1, 0], o.id = p.id ∧
        o.key = "ItemDoc" ∧ p.key = "Tdoc.ItemDoc" ∧ o.key ≠ p.key := by
  intro words f
  obtain ⟨-, -, hbegin, -, hkeys⟩ := words_begin_at_capitals "TRet_-evento2X"
  have hseparators := List.all_eq_true.mp (show ['_', '-'].all separatesWords = true by decide)
  have hcapital := hbegin [] 'T' [] 'R' "et_-evento2X".toList
    (by decide) (by decide) (by decide) (List.forall_mem_nil _)
  have hgap := hbegin ['T', 'R', 'e'] 't' ['_', '-'] 'e' "vento2X".toList
    (by decide) (by decide) (by decide) hseparators
  have hdigit := hbegin "TRet_-evento".toList '2' [] 'X' []
    (by decide) (by decide) (by decide) (List.forall_mem_nil _)
  let o : Occurrence := ⟨1, [1], ["ItemDoc"]⟩
  let p : Occurrence := ⟨1, [0, 1], ["Tdoc", "ItemDoc"]⟩
  have ho : o ∈ f.occurrences [1, 0] := by decide +kernel
  have hp : p ∈ f.occurrences [1, 0] := by decide +kernel
  have hdiffer := hkeys f [1, 0] [1, 0] o (Nesting.mem_of_mem_visit ho) p
    (Nesting.mem_of_mem_visit hp) (by decide)
  refine ⟨by decide, fun h => absurd (hcapital.mp h) (by decide), hgap.mpr (by decide),
    hdigit.mpr (by decide), o, ho, p, hp, rfl, by decide, by decide, hdiffer⟩

end SchemaModels

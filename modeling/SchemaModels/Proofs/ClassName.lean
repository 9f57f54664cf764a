/-
Names of classes in paths have no dots.

The words of a name make up the name without the characters that separate words.  Dots are such
characters, so no word has one, and no case map leads from another character to a dot.  The main
statement is `dot_not_mem_className`; it is what makes a dotted path as good as the list of its
names.
-/
import SchemaModels.ClassName

namespace SchemaModels

open Text

/-! ## Case maps -/

theorem eq_of_ofNat_eq_dot {n : Nat} (h : Char.ofNat n = '.') : n = 46 := by
  by_cases hvalid : n.isValidChar
  · have hn : (Char.ofNat n).toNat = n := congrArg Char.toNat (dif_pos hvalid)
    rw [h] at hn
    exact hn.symm
  · have hzero : Char.ofNat n = Char.ofNat 0 := dif_neg hvalid
    rw [hzero] at h
    exact absurd h (by decide)

/-- The image of a run does not reach the dot. -/
def Text.CaseShift.missesDot (s : CaseShift) : Bool :=
  match s.run with
  | .span first last | .alternate first last =>
    46 < (first : Int) + s.distance || (last : Int) + s.distance < 46

theorem image_ne_dot {s : CaseShift} {n : Nat} (hs : s.missesDot = true)
    (h : s.run.contains n = true) : Char.ofNat (Int.toNat (n + s.distance)) ≠ '.' := by
  intro hdot
  have h46 := eq_of_ofNat_eq_dot hdot
  obtain ⟨run, distance⟩ := s
  cases run with
  | span first last =>
    simp only [CaseShift.missesDot, CodeRun.contains, Bool.or_eq_true, Bool.and_eq_true,
      decide_eq_true_eq] at hs h h46
    omega
  | alternate first last =>
    simp only [CaseShift.missesDot, CodeRun.contains, Bool.or_eq_true, Bool.and_eq_true,
      decide_eq_true_eq] at hs h h46
    omega

theorem shifted_ne_dot {shifts : List CaseShift} {c d : Char}
    (hs : shifts.all CaseShift.missesDot = true) (h : shifted shifts c = some d) : d ≠ '.' := by
  obtain ⟨s, hfind, rfl⟩ := Option.map_eq_some_iff.mp h
  have hrun := List.find?_some hfind
  exact image_ne_dot (List.all_eq_true.mp hs s (List.mem_of_find?_eq_some hfind)) hrun

theorem dot_not_mem_mapCase {shifts : List CaseShift} {expansions : List (Nat × List Nat)}
    {c : Char} (hs : shifts.all CaseShift.missesDot = true)
    (he : expansions.all (fun e => !e.2.contains 46) = true) (hc : c ≠ '.') :
    '.' ∉ mapCase shifts expansions c := by
  unfold mapCase
  split
  · rename_i d hd
    simpa using (shifted_ne_dot hs hd).symm
  · split
    · rename_i codes hcodes
      obtain ⟨before, after, heq, -⟩ := List.lookup_eq_some_iff.mp hcodes
      have hmem := List.all_eq_true.mp he (c.toNat, codes) (by simp [heq])
      intro hdot
      obtain ⟨n, hn, hndot⟩ := List.mem_map.mp hdot
      rw [eq_of_ofNat_eq_dot hndot] at hn
      simp [hn] at hmem
    · simpa using hc.symm

/-- Below 128 the case maps are those of ASCII. -/
theorem ascii_case_ne_dot : ∀ n < 128, n ≠ 46 →
    (Char.ofNat n).toUpper ≠ '.' ∧ (Char.ofNat n).toLower ≠ '.' := by
  decide

theorem ascii_ne_dot {c : Char} (hc : c ≠ '.') (h : c.toNat < 128) :
    c.toUpper ≠ '.' ∧ c.toLower ≠ '.' := by
  have := ascii_case_ne_dot c.toNat h fun e => hc (Char.toNat_inj.mp e)
  simpa using this

theorem dot_not_mem_upper {c : Char} (hc : c ≠ '.') : '.' ∉ upper c := by
  unfold upper
  split
  · rename_i h
    simpa using (ascii_ne_dot hc h).1.symm
  · exact dot_not_mem_mapCase (by decide +kernel) (by decide +kernel) hc

theorem dot_not_mem_lower {c : Char} (hc : c ≠ '.') : '.' ∉ lower c := by
  unfold lower
  split
  · rename_i h
    simpa using (ascii_ne_dot hc h).2.symm
  · exact dot_not_mem_mapCase (by decide +kernel) (by decide +kernel) hc

/-! ## Words -/

/-- A character that belongs to no word: it is neither cased nor numeric. -/
def separatesWords (c : Char) : Bool := !isUpper c && !isLower c && !isNumeric c

theorem letterCase_eq_upper_iff {c : Char} : LetterCase.of c = .upper ↔ isUpper c = true := by
  grind [LetterCase.of]

theorem letterCase_eq_other_iff {c : Char} :
    LetterCase.of c = .other ↔ separatesWords c = true := by
  grind [LetterCase.of, separatesWords]

def unseparated (name : List Char) : List Char := name.filter fun c => !separatesWords c

theorem unseparated_cons_of_separates {c : Char} (h : separatesWords c = true)
    (name : List Char) : unseparated (c :: name) = unseparated name :=
  List.filter_cons_of_neg (by simp [h])

theorem unseparated_cons_of_not_separates {c : Char} (h : separatesWords c = false)
    (name : List Char) : unseparated (c :: name) = c :: unseparated name :=
  List.filter_cons_of_pos (by simp [h])

/-- A capital starts a word unless the character before it is one too. -/
def startsWord (previous : Option LetterCase) (c : Char) : Bool :=
  isUpper c && previous.any (· ≠ .upper)

section

variable {previous : Option LetterCase} {c : Char} (word rest : List Char)

theorem splitWordsFrom_of_separates (h : separatesWords c = true) :
    splitWordsFrom previous word (c :: rest) =
      closeWord word ++ splitWordsFrom (some .other) [] rest := by
  rw [splitWordsFrom, letterCase_eq_other_iff.mpr h]

theorem splitWordsFrom_of_starts (h : startsWord previous c = true) :
    splitWordsFrom previous word (c :: rest) =
      closeWord word ++ splitWordsFrom (some (LetterCase.of c)) [c] rest := by
  obtain ⟨hupper, hprevious⟩ := Bool.and_eq_true_iff.mp h
  rw [splitWordsFrom, letterCase_eq_upper_iff.mpr hupper]
  exact if_pos hprevious

theorem splitWordsFrom_of_continues (hc : separatesWords c = false)
    (h : startsWord previous c = false) :
    splitWordsFrom previous word (c :: rest) =
      splitWordsFrom (some (LetterCase.of c)) (word ++ [c]) rest := by
  rw [splitWordsFrom]
  split
  · rename_i hother
    rw [letterCase_eq_other_iff.mp hother] at hc
    exact absurd hc (by decide)
  · rename_i hupper
    rw [startsWord, letterCase_eq_upper_iff.mp hupper, Bool.true_and] at h
    rw [hupper, if_neg (Bool.eq_false_iff.mp h)]
  · rfl

/-- What reading one character can do. -/
theorem splitWordsFrom_cons_cases (previous : Option LetterCase) (c : Char) :
    (separatesWords c = true ∧ splitWordsFrom previous word (c :: rest) =
        closeWord word ++ splitWordsFrom (some .other) [] rest) ∨
      (separatesWords c = false ∧ splitWordsFrom previous word (c :: rest) =
        closeWord word ++ splitWordsFrom (some (LetterCase.of c)) [c] rest) ∨
      (separatesWords c = false ∧ splitWordsFrom previous word (c :: rest) =
        splitWordsFrom (some (LetterCase.of c)) (word ++ [c]) rest) := by
  cases hc : separatesWords c with
  | true => exact Or.inl ⟨rfl, splitWordsFrom_of_separates word rest hc⟩
  | false =>
    cases hstart : startsWord previous c with
    | true => exact Or.inr (Or.inl ⟨rfl, splitWordsFrom_of_starts word rest hstart⟩)
    | false => exact Or.inr (Or.inr ⟨rfl, splitWordsFrom_of_continues word rest hc hstart⟩)

end

theorem flatten_closeWord (word : List Char) : (closeWord word).flatten = word := by
  cases word with
  | nil => rfl
  | cons c rest => exact List.append_nil (c :: rest)

theorem closeWord_of_ne_nil {word : List Char} (h : word ≠ []) : closeWord word = [word] :=
  if_neg (by simpa using h)

theorem ne_nil_of_mem_closeWord {word w : List Char} (h : w ∈ closeWord word) : w ≠ [] := by
  cases word with
  | nil => exact absurd h List.not_mem_nil
  | cons c rest =>
    rw [List.mem_singleton.mp h]
    exact List.cons_ne_nil c rest

/-- No character of a name is lost but those that separate its words. -/
theorem flatten_splitWordsFrom (previous : Option LetterCase) (word name : List Char) :
    (splitWordsFrom previous word name).flatten = word ++ unseparated name := by
  induction name generalizing previous word with
  | nil => rw [splitWordsFrom, flatten_closeWord, unseparated, List.filter_nil, List.append_nil]
  | cons c rest ih =>
    rcases splitWordsFrom_cons_cases word rest previous c with ⟨hc, h⟩ | ⟨hc, h⟩ | ⟨hc, h⟩
    · rw [h, List.flatten_append, flatten_closeWord, ih, List.nil_append,
        unseparated_cons_of_separates hc]
    · rw [h, List.flatten_append, flatten_closeWord, ih, List.singleton_append,
        unseparated_cons_of_not_separates hc]
    · rw [h, ih, List.append_assoc, List.singleton_append, unseparated_cons_of_not_separates hc]

theorem flatten_splitWords (name : List Char) :
    (splitWords name).flatten = unseparated name := flatten_splitWordsFrom none [] name

theorem not_separates_of_mem_splitWords {name word : List Char} (h : word ∈ splitWords name) :
    ∀ c ∈ word, separatesWords c = false := by
  intro c hc
  have hkept : c ∈ unseparated name := by
    rw [← flatten_splitWords]
    exact List.mem_flatten_of_mem h hc
  simpa using (List.mem_filter.mp hkept).2

/-! ## Path names -/

theorem dot_not_mem_titleCaseFrom {afterLetter : Bool} {word : List Char} (h : '.' ∉ word) :
    '.' ∉ titleCaseFrom afterLetter word := by
  induction word generalizing afterLetter with
  | nil => exact h
  | cons c rest ih =>
    obtain ⟨hc, hrest⟩ := not_or.mp (mt List.mem_cons.mpr h)
    rw [titleCaseFrom, List.mem_append, not_or]
    refine ⟨?_, ih hrest⟩
    split
    · exact dot_not_mem_lower (Ne.symm hc)
    · exact dot_not_mem_upper (Ne.symm hc)

theorem dot_not_mem_className (name : String) : '.' ∉ (className name).toList := by
  unfold className
  rw [String.toList_ofList, List.mem_flatMap]
  rintro ⟨word, hword, hdot⟩
  have hw : '.' ∉ word := fun h =>
    absurd (not_separates_of_mem_splitWords hword '.' h) (by decide)
  exact dot_not_mem_titleCaseFrom hw hdot

end SchemaModels

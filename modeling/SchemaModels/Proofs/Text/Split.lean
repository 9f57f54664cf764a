/-
Texts around their ends and tokens.

What is found before, behind or around a part of a text is the rest of the text: put together again
the parts give the whole.
-/
import Mathlib.Data.List.DropRight
import SchemaModels.Text.Split

namespace SchemaModels
namespace Text

/-! ## Ends -/

theorem after?_eq_some_iff {start s rest : List Char} :
    after? start s = some rest ↔ s = start ++ rest := by
  induction start generalizing s with
  | nil => simp [after?]
  | cons a start ih =>
    cases s with
    | nil => simp [after?]
    | cons c s =>
      by_cases h : a = c
      · simp [after?, h, ih]
      · simp [after?, h, Ne.symm h]

theorem before?_eq_some_iff {ending s head : List Char} :
    before? ending s = some head ↔ s = head ++ ending := by
  rw [before?, Option.map_eq_some_iff]
  constructor
  · rintro ⟨rest, hrest, rfl⟩
    have h := congrArg List.reverse (after?_eq_some_iff.mp hrest)
    rwa [List.reverse_reverse, List.reverse_append, List.reverse_reverse] at h
  · rintro rfl
    refine ⟨head.reverse, ?_, List.reverse_reverse head⟩
    rw [after?_eq_some_iff, List.reverse_append]

theorem beginsWith_iff {start s : List Char} : beginsWith start s = true ↔ start <+: s := by
  rw [beginsWith, Option.isSome_iff_exists]
  simp only [after?_eq_some_iff]
  exact exists_congr fun _ => eq_comm

theorem endsWith_iff {ending s : List Char} : endsWith ending s = true ↔ ending <:+ s := by
  rw [endsWith, Option.isSome_iff_exists]
  simp only [before?_eq_some_iff]
  exact exists_congr fun _ => eq_comm

theorem endsWith_singleton {c : Char} {s : List Char} :
    endsWith [c] s = true ↔ s.getLast? = some c := by
  rw [endsWith_iff]
  constructor
  · rintro ⟨head, rfl⟩
    exact List.getLast?_concat
  · intro h
    obtain ⟨head, rfl⟩ := List.getLast?_eq_some_iff.mp h
    exact List.suffix_append head [c]

/-! ## Tokens -/

theorem splitFirst?_eq_some {token s head tail : List Char}
    (h : splitFirst? token s = some (head, tail)) : s = head ++ token ++ tail := by
  induction s generalizing head with
  | nil =>
    rw [splitFirst?] at h
    split at h
    · rename_i hempty
      cases h
      rw [List.isEmpty_iff.mp hempty]
      rfl
    · exact absurd h (by simp)
  | cons c s ih =>
    rw [splitFirst?] at h
    split at h
    · rename_i rest hrest
      cases h
      exact after?_eq_some_iff.mp hrest
    · obtain ⟨⟨first, last⟩, hsplit, hparts⟩ := Option.map_eq_some_iff.mp h
      cases hparts
      rw [ih hsplit, List.cons_append, List.cons_append]

theorem splitLast?_eq_some {token s head tail : List Char}
    (h : splitLast? token s = some (head, tail)) : s = head ++ token ++ tail := by
  obtain ⟨⟨last, first⟩, hsplit, hparts⟩ := Option.map_eq_some_iff.mp h
  cases hparts
  have hwhole := congrArg List.reverse (splitFirst?_eq_some hsplit)
  simpa using hwhole

theorem length_lt_of_splitLast? {token s head tail : List Char} (htoken : token ≠ [])
    (h : splitLast? token s = some (head, tail)) : head.length < s.length := by
  have hlength := congrArg List.length (splitLast?_eq_some h)
  have := List.length_pos_iff.mpr htoken
  simp only [List.length_append] at hlength
  omega

theorem splitFirst?_append_self {token : List Char} (htoken : token ≠ []) (s : List Char) :
    splitFirst? token (token ++ s) = some ([], s) := by
  obtain ⟨c, token, rfl⟩ := List.exists_cons_of_ne_nil htoken
  have hafter : after? (c :: token) (c :: (token ++ s)) = some s := after?_eq_some_iff.mpr rfl
  rw [List.cons_append, splitFirst?, hafter]

theorem splitFirst?_cons {token s : List Char} {c : Char} (h : ¬ token <+: c :: s) :
    splitFirst? token (c :: s) =
      (splitFirst? token s).map fun (head, tail) => (c :: head, tail) := by
  have hnone : after? token (c :: s) = none := by
    rw [Option.eq_none_iff_forall_ne_some]
    intro rest hrest
    exact h ⟨rest, (after?_eq_some_iff.mp hrest).symm⟩
  rw [splitFirst?, hnone]

theorem exists_splitFirst? (token head tail : List Char) :
    ∃ first rest, splitFirst? token (head ++ token ++ tail) = some (first, rest) ∧
      first.length ≤ head.length := by
  induction head with
  | nil =>
    rw [List.nil_append]
    by_cases htoken : token = []
    · subst htoken
      cases tail <;> exact ⟨[], _, rfl, Nat.le_refl 0⟩
    · exact ⟨[], tail, splitFirst?_append_self htoken tail, Nat.le_refl 0⟩
  | cons c head ih =>
    by_cases hstart : token <+: c :: (head ++ token ++ tail)
    · obtain ⟨rest, hrest⟩ := hstart
      have hafter : after? token (c :: (head ++ token ++ tail)) = some rest :=
        after?_eq_some_iff.mpr hrest.symm
      exact ⟨[], rest, by rw [List.cons_append, List.cons_append, splitFirst?, hafter],
        Nat.zero_le _⟩
    · obtain ⟨first, rest, hfirst, hle⟩ := ih
      refine ⟨c :: first, rest, ?_, Nat.succ_le_succ hle⟩
      rw [List.cons_append, List.cons_append, splitFirst?_cons hstart, hfirst]
      rfl

theorem exists_splitLast? (token head tail : List Char) :
    ∃ lead last, splitLast? token (head ++ token ++ tail) = some (lead, last) ∧
      head.length ≤ lead.length := by
  obtain ⟨first, rest, hfirst, hle⟩ :=
    exists_splitFirst? token.reverse tail.reverse head.reverse
  have hsplit : splitLast? token (head ++ token ++ tail) = some (rest.reverse, first.reverse) := by
    rw [splitLast?, List.reverse_append, List.reverse_append, ← List.append_assoc, hfirst]
    rfl
  refine ⟨rest.reverse, first.reverse, hsplit, ?_⟩
  have hlength := congrArg List.length (splitLast?_eq_some hsplit)
  simp only [List.length_append, List.length_reverse] at hlength hle ⊢
  omega

theorem splitLast?_eq_none_iff {token s : List Char} :
    splitLast? token s = none ↔ ¬ token <:+: s := by
  rw [Option.eq_none_iff_forall_ne_some]
  constructor
  · rintro hnone ⟨head, tail, rfl⟩
    obtain ⟨lead, last, hsplit, -⟩ := exists_splitLast? token head tail
    exact hnone _ hsplit
  · rintro hinfix ⟨head, tail⟩ hsplit
    exact hinfix ⟨head, tail, (splitLast?_eq_some hsplit).symm⟩

/-! ## One character as a token -/

theorem after?_singleton (c d : Char) (s : List Char) :
    after? [c] (d :: s) = if c = d then some s else none := by
  rw [after?]
  split <;> rfl

theorem splitFirst?_char_eq_none_iff {c : Char} {s : List Char} :
    splitFirst? [c] s = none ↔ c ∉ s := by
  induction s with
  | nil => simp [splitFirst?]
  | cons d s ih =>
    rw [splitFirst?, after?_singleton]
    by_cases h : c = d
    · simp [h]
    · simp [h, ih]

/-- The first occurrence of a character is the one with none before it. -/
theorem splitFirst?_char_eq_some_iff {c : Char} {s head tail : List Char} :
    splitFirst? [c] s = some (head, tail) ↔ s = head ++ c :: tail ∧ c ∉ head := by
  induction s generalizing head with
  | nil => simp [splitFirst?]
  | cons d s ih =>
    rw [splitFirst?, after?_singleton]
    by_cases h : c = d
    · subst h
      cases head with
      | nil => simp [eq_comm]
      | cons a head =>
        simp only [if_true, Option.some.injEq, Prod.mk.injEq, List.cons_append, List.cons.injEq,
          List.mem_cons, not_or]
        constructor
        · rintro ⟨h, -⟩
          exact absurd h (by simp)
        · rintro ⟨⟨h, -⟩, hne, -⟩
          exact absurd h hne
    · rw [if_neg h]
      cases head with
      | nil => simp [Ne.symm h]
      | cons a head =>
        simp only [Option.map_eq_some_iff, Prod.exists, Prod.mk.injEq, List.cons.injEq,
          List.cons_append, List.mem_cons, not_or]
        constructor
        · rintro ⟨first, rest, hsplit, ⟨rfl, rfl⟩, rfl⟩
          obtain ⟨rfl, hnot⟩ := ih.mp hsplit
          exact ⟨⟨rfl, rfl⟩, h, hnot⟩
        · rintro ⟨⟨rfl, rfl⟩, -, hnot⟩
          exact ⟨head, tail, ih.mpr ⟨rfl, hnot⟩, ⟨rfl, rfl⟩, rfl⟩

theorem splitLast?_char_eq_none_iff {c : Char} {s : List Char} :
    splitLast? [c] s = none ↔ c ∉ s := by
  rw [splitLast?, List.reverse_singleton, Option.map_eq_none_iff, splitFirst?_char_eq_none_iff,
    List.mem_reverse]

/-- The last occurrence of a character is the one with none behind it. -/
theorem splitLast?_char_eq_some_iff {c : Char} {s head tail : List Char} :
    splitLast? [c] s = some (head, tail) ↔ s = head ++ c :: tail ∧ c ∉ tail := by
  rw [splitLast?, List.reverse_singleton, Option.map_eq_some_iff]
  constructor
  · rintro ⟨⟨last, first⟩, hsplit, hparts⟩
    cases hparts
    obtain ⟨hwhole, hnot⟩ := splitFirst?_char_eq_some_iff.mp hsplit
    refine ⟨?_, mt List.mem_reverse.mp hnot⟩
    simpa using congrArg List.reverse hwhole
  · rintro ⟨rfl, hnot⟩
    refine ⟨(tail.reverse, head.reverse), splitFirst?_char_eq_some_iff.mpr ⟨by simp, ?_⟩, by simp⟩
    exact mt List.mem_reverse.mp hnot

/-! ## Tokens around a character

Such a token is only found where that character stands, so that a search goes from one to the
next. -/

section

variable {c : Char} {before after : List Char}

theorem eq_of_prefix_around {s rest : List Char} (hbefore : c ∉ before) (hs : c ∉ s)
    (h : before ++ c :: after <+: s ++ c :: rest) : before = s := by
  obtain ⟨more, hmore⟩ := h
  have hleft : splitFirst? [c] (s ++ c :: rest) = some (before, after ++ more) :=
    splitFirst?_char_eq_some_iff.mpr ⟨by simp [← hmore], hbefore⟩
  have hright : splitFirst? [c] (s ++ c :: rest) = some (s, rest) :=
    splitFirst?_char_eq_some_iff.mpr ⟨rfl, hs⟩
  exact congrArg Prod.fst (Option.some.inj (hleft.symm.trans hright))

theorem splitFirst?_around_found {s rest : List Char} (hs : c ∉ s) (hbefore : c ∉ before) :
    splitFirst? (before ++ c :: after) (s ++ (before ++ c :: after ++ rest)) =
      some (s, rest) := by
  induction s with
  | nil => exact splitFirst?_append_self (by simp) rest
  | cons a s ih =>
    have hrest : c ∉ s := fun hmem => hs (List.mem_cons_of_mem a hmem)
    have hnot : ¬ before ++ c :: after <+: a :: (s ++ (before ++ c :: after ++ rest)) := by
      intro hprefix
      have hwhole : a :: (s ++ (before ++ c :: after ++ rest)) =
          (a :: s ++ before) ++ c :: (after ++ rest) := by simp
      rw [hwhole] at hprefix
      have hmiss : c ∉ a :: s ++ before := by
        rw [List.mem_append, not_or]
        exact ⟨hs, hbefore⟩
      have heq := eq_of_prefix_around hbefore hmiss hprefix
      have hlength := congrArg List.length heq
      simp only [List.length_append, List.length_cons] at hlength
      omega
    rw [List.cons_append, splitFirst?_cons hnot, ih hrest]
    rfl

theorem splitFirst?_around_missed {s rest : List Char} (hs : c ∉ s) (hbefore : c ∉ before)
    (h : ¬ before <:+ s) :
    splitFirst? (before ++ c :: after) (s ++ c :: rest) =
      (splitFirst? (before ++ c :: after) rest).map fun (head, tail) =>
        (s ++ c :: head, tail) := by
  induction s with
  | nil =>
    have hnot : ¬ before ++ c :: after <+: c :: rest := fun hprefix =>
      h (eq_of_prefix_around (s := []) hbefore hs hprefix ▸ List.suffix_refl _)
    exact splitFirst?_cons hnot
  | cons a s ih =>
    have hrest : c ∉ s := fun hmem => hs (List.mem_cons_of_mem a hmem)
    have hnot : ¬ before ++ c :: after <+: a :: s ++ c :: rest := fun hprefix =>
      h (eq_of_prefix_around hbefore hs hprefix ▸ List.suffix_refl _)
    rw [List.cons_append] at hnot ⊢
    rw [splitFirst?_cons hnot, ih hrest fun hsuffix => h (hsuffix.trans (List.suffix_cons a s)),
      Option.map_map]
    rfl

end

/-! ## Trimming -/

theorem trimEnd_prefix_self (s : List Char) : trimEnd s <+: s := List.rdropWhile_prefix isBlank s

theorem trimEnd_eq_nil_iff {s : List Char} : trimEnd s = [] ↔ ∀ c ∈ s, isBlank c = true :=
  List.rdropWhile_eq_nil_iff

theorem trimEnd_concat {c : Char} (hc : isBlank c = true) (s : List Char) :
    trimEnd (s ++ [c]) = trimEnd s := List.rdropWhile_concat_pos isBlank s c hc

theorem trimEnd_cons {s : List Char} (h : ∃ c ∈ s, isBlank c = false) (a : Char) :
    trimEnd (a :: s) = a :: trimEnd s := by
  have hsome : (s.reverse.dropWhile isBlank).isEmpty = false := by
    rw [List.isEmpty_eq_false_iff]
    intro hempty
    obtain ⟨c, hc, hword⟩ := h
    have hblank := trimEnd_eq_nil_iff.mp (List.reverse_eq_nil_iff.mpr hempty) c hc
    rw [hword] at hblank
    exact absurd hblank (by decide)
  rw [trimEnd, List.reverse_cons, List.dropWhile_append, hsome]
  simp [trimEnd]

theorem exists_not_blank_iff {s : List Char} :
    (∃ c ∈ s, isBlank c = false) ↔ (s.any fun c => !isBlank c) = true := by
  simp [List.any_eq_true]

theorem blank_or_mem_dropWhile {s : List Char} {c : Char} (hc : c ∈ s) :
    isBlank c = true ∨ c ∈ s.dropWhile isBlank := by
  rw [← List.takeWhile_append_dropWhile (p := isBlank) (l := s)] at hc
  exact (List.mem_append.mp hc).imp_left List.mem_takeWhile_imp

theorem blank_or_mem_trim {s : List Char} {c : Char} (hc : c ∈ s) :
    isBlank c = true ∨ c ∈ trim s := by
  rcases blank_or_mem_dropWhile hc with hblank | hstart
  · exact Or.inl hblank
  · exact (blank_or_mem_dropWhile (List.mem_reverse.mpr hstart)).imp_right List.mem_reverse.mpr

theorem trim_ne_nil {s : List Char} (h : ∃ c ∈ s, isBlank c = false) : trim s ≠ [] := by
  intro hempty
  obtain ⟨c, hc, hsome⟩ := h
  rcases blank_or_mem_trim hc with hblank | hmem
  · rw [hblank] at hsome
    exact absurd hsome (by decide)
  · rw [hempty] at hmem
    exact absurd hmem List.not_mem_nil

theorem dropWhile_eq_self {s : List Char} (h : ∀ c ∈ s, isBlank c = false) :
    s.dropWhile isBlank = s := by
  cases s with
  | nil => rfl
  | cons c s => rw [List.dropWhile_cons_of_neg (by rw [h c List.mem_cons_self]; decide)]

theorem trim_eq_self {s : List Char} (h : ∀ c ∈ s, isBlank c = false) : trim s = s := by
  have hreverse : ∀ c ∈ s.reverse, isBlank c = false := fun c hc => h c (List.mem_reverse.mp hc)
  rw [trim, trimStart, dropWhile_eq_self h, trimEnd, dropWhile_eq_self hreverse,
    List.reverse_reverse]

theorem trim_eq_nil {s : List Char} (h : ∀ c ∈ s, isBlank c = true) : trim s = [] := by
  rw [trim, trimEnd_eq_nil_iff]
  intro c hc
  exact h c ((List.dropWhile_sublist isBlank).subset hc)

end Text
end SchemaModels

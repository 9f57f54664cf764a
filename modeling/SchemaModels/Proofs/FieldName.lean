/-
Safe names are identifiers that are not reserved.

No reserved word has an underscore, so neither what is put in front of a digit nor what is put
behind a reserved word can lead to a reserved word again.  A name that is safe already has nothing
to be replaced or set apart, so it stays as it is, and every name that changes was not safe:
`safeName_makes_safe`.
-/
import SchemaModels.FieldName

namespace SchemaModels

open Text

/-- A character that stays in a safe name. -/
def isSafeChar (c : Char) : Bool := isAlphanumeric c || c == '_'

/-- A name for a field that needs no change. -/
structure IsSafeName (name : String) : Prop where
  ne_empty : name ≠ ""
  all_safe : ∀ c ∈ name.toList, isSafeChar c = true
  digit_not_first : ∀ c ∈ name.toList.head?, isAsciiDigit c = false
  not_reserved : name ∉ reservedWords

/-! ## Characters -/

theorem safeChar_safe (c : Char) : isSafeChar (safeChar c) = true := by
  by_cases h : isSafeChar c = true
  · rw [show safeChar c = c from if_pos h]
    exact h
  · rw [show safeChar c = '_' from if_neg h]
    decide

/-- The name with every character replaced that may not stand in an identifier. -/
def replaced (name : String) : String := String.ofList (name.toList.map safeChar)

theorem toList_replaced (name : String) : (replaced name).toList = name.toList.map safeChar :=
  String.toList_ofList

theorem replaced_safe (name : String) : ∀ c ∈ (replaced name).toList, isSafeChar c = true := by
  intro c hc
  rw [toList_replaced] at hc
  obtain ⟨d, -, rfl⟩ := List.mem_map.mp hc
  exact safeChar_safe d

theorem replaced_eq_self {name : String} (h : IsSafeName name) : replaced name = name := by
  have hchars : name.toList.map safeChar = name.toList :=
    (List.map_congr_left fun c hc => if_pos (h.all_safe c hc)).trans (List.map_id _)
  rw [replaced, hchars, String.ofList_toList]

theorem append_safe {s t : String} (hs : ∀ c ∈ s.toList, isSafeChar c = true)
    (ht : ∀ c ∈ t.toList, isSafeChar c = true) : ∀ c ∈ (s ++ t).toList, isSafeChar c = true := by
  intro c hc
  rw [String.toList_append, List.mem_append] at hc
  exact hc.elim (hs c) (ht c)

/-! ## Reserved words -/

theorem underscore_not_mem_reserved : ∀ word ∈ reservedWords, '_' ∉ word.toList := by decide

theorem not_reserved_of_underscore {name : String} (h : '_' ∈ name.toList) :
    name ∉ reservedWords := fun hreserved => underscore_not_mem_reserved name hreserved h

/-! ## Safe names -/

theorem safeName_cases (name : String) :
    (name = "" ∧ safeName name = "value") ∨
      ∃ c rest, (replaced name).toList = c :: rest ∧
        ((isAsciiDigit c = true ∧ safeName name = "value_" ++ replaced name) ∨
          (isAsciiDigit c = false ∧ replaced name ∈ reservedWords ∧
            safeName name = replaced name ++ "_value") ∨
          (isAsciiDigit c = false ∧ replaced name ∉ reservedWords ∧
            safeName name = replaced name)) := by
  cases hchars : name.toList.map safeChar with
  | nil =>
    have hempty : name = "" := String.toList_eq_nil_iff.mp (List.map_eq_nil_iff.mp hchars)
    exact Or.inl ⟨hempty, by rw [safeName, hchars]⟩
  | cons c rest =>
    have hreplaced : String.ofList (c :: rest) = replaced name := by rw [replaced, hchars]
    refine Or.inr ⟨c, rest, (toList_replaced name).trans hchars, ?_⟩
    rw [safeName, hchars]
    simp only [hreplaced]
    cases hdigit : isAsciiDigit c with
    | true =>
      have hfree : "value_" ++ replaced name ∉ reservedWords :=
        not_reserved_of_underscore (by simp)
      exact Or.inl ⟨rfl, by simp [hfree]⟩
    | false =>
      by_cases hreserved : replaced name ∈ reservedWords
      · exact Or.inr (Or.inl ⟨rfl, hreserved, by simp [hreserved]⟩)
      · exact Or.inr (Or.inr ⟨rfl, hreserved, by simp [hreserved]⟩)

theorem isSafeName_of_toList_eq {name : String} {c : Char} {rest : List Char}
    (hname : name.toList = c :: rest) (hsafe : ∀ d ∈ name.toList, isSafeChar d = true)
    (hdigit : isAsciiDigit c = false) (hfree : name ∉ reservedWords) : IsSafeName name where
  ne_empty := by
    rintro rfl
    exact absurd hname (by simp)
  all_safe := hsafe
  digit_not_first := by
    rw [hname]
    simpa using hdigit
  not_reserved := hfree

theorem isSafeName_safeName (name : String) : IsSafeName (safeName name) := by
  rcases safeName_cases name with
    ⟨-, h⟩ | ⟨c, rest, hchars, ⟨-, h⟩ | ⟨hdigit, -, h⟩ | ⟨hdigit, hfree, h⟩⟩
  · rw [h]
    have hchars : "value".toList = 'v' :: "alue".toList := rfl
    exact isSafeName_of_toList_eq hchars (List.all_eq_true.mp (by decide)) (by decide) (by decide)
  · have hlead : ∀ d ∈ "value_".toList, isSafeChar d = true := List.all_eq_true.mp (by decide)
    have hchars : ("value_" ++ replaced name).toList =
        'v' :: ("alue_".toList ++ (replaced name).toList) := String.toList_append ..
    rw [h]
    exact isSafeName_of_toList_eq hchars (append_safe hlead (replaced_safe name)) (by decide)
      (not_reserved_of_underscore (by simp))
  · have hend : ∀ d ∈ "_value".toList, isSafeChar d = true := List.all_eq_true.mp (by decide)
    have happend : (replaced name ++ "_value").toList = c :: (rest ++ "_value".toList) := by
      rw [String.toList_append, hchars, List.cons_append]
    rw [h]
    exact isSafeName_of_toList_eq happend (append_safe (replaced_safe name) hend) hdigit
      (not_reserved_of_underscore (by simp))
  · rw [h]
    exact isSafeName_of_toList_eq hchars (replaced_safe name) hdigit hfree

theorem safeName_eq_self {name : String} (hname : IsSafeName name) : safeName name = name := by
  have hreplaced := replaced_eq_self hname
  rcases safeName_cases name with
    ⟨hempty, -⟩ | ⟨c, rest, hchars, ⟨hdigit, -⟩ | ⟨-, hreserved, -⟩ | ⟨-, -, h⟩⟩
  · exact absurd hempty hname.ne_empty
  · rw [hreplaced] at hchars
    have hnot := hname.digit_not_first c (by rw [hchars]; rfl)
    rw [hdigit] at hnot
    exact absurd hnot (by decide)
  · rw [hreplaced] at hreserved
    exact absurd hreserved hname.not_reserved
  · rw [h, hreplaced]

/-- What is said in a name stays in its safe name, with nothing replaced but what may not stand in
an identifier. -/
theorem replaced_infix_safeName (name : String) :
    (replaced name).toList <:+: (safeName name).toList := by
  rcases safeName_cases name with
    ⟨hempty, -⟩ | ⟨c, rest, -, ⟨-, h⟩ | ⟨-, -, h⟩ | ⟨-, -, h⟩⟩
  · rw [hempty]
    exact List.nil_infix
  · rw [h, String.toList_append]
    exact (List.suffix_append _ _).isInfix
  · rw [h, String.toList_append]
    exact (List.prefix_append _ _).isInfix
  · exact h ▸ List.infix_rfl

/-- A safe name is never empty, has only letters, numbers and underscores, does not begin with an
ASCII digit and is not reserved.  The names that stay as they are are those of which all this is
true, so making a name safe twice is the same as once; and no character of a name is lost. -/
theorem safeName_makes_safe (name : String) :
    IsSafeName (safeName name) ∧
      (safeName name = name ↔ IsSafeName name) ∧
      safeName (safeName name) = safeName name ∧
      name.toList.map safeChar <:+: (safeName name).toList := by
  have hsafe := isSafeName_safeName name
  refine ⟨hsafe, ⟨fun hsame => hsame ▸ hsafe, safeName_eq_self⟩, safeName_eq_self hsafe, ?_⟩
  rw [← toList_replaced]
  exact replaced_infix_safeName name

/-- A digit in front is set apart before reserved words are looked for. -/
example : safeName "1-2" = "value_1_2" ∧ safeName "0if" = "value_0if" ∧
    safeName "if" = "if_value" := by decide

/-- Words that are reserved in certain places only do not give way. -/
example :
    (∀ word ∈ ["False", "None", "True", "and", "as", "assert", "async", "await", "break", "class",
        "continue", "def", "del", "elif", "else", "except", "finally", "for", "from", "global",
        "if", "import", "in", "is", "lambda", "nonlocal", "not", "or", "pass", "raise", "return",
        "try", "while", "with", "yield"], safeName word = word ++ "_value") ∧
      ∀ word ∈ ["match", "case", "type", "self", "print", "true", "IF"], safeName word = word := by
  decide +kernel

end SchemaModels

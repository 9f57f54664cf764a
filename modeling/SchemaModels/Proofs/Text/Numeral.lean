/-
Numbers in decimal notation.
-/
import Mathlib.Algebra.Group.Nat.Defs
import SchemaModels.Text.Numeral

namespace SchemaModels

namespace Text

theorem lt_of_numeral? {limit n : Nat} {s : List Char} (h : numeral? limit s = some n) :
    n < limit := by
  simp only [numeral?, Option.ite_none_left_eq_some, Option.ite_none_right_eq_some,
    Option.some.injEq] at h
  obtain ⟨-, hlimit, rfl⟩ := h
  exact hlimit

/-- One or more ASCII digits with the value `n`. -/
structure AreDigits (digits : List Char) (n : Nat) : Prop where
  ne_nil : digits ≠ []
  forall_digit : ∀ c ∈ digits, isAsciiDigit c = true
  value_eq : Nat.ofDigitChars 10 digits 0 = n

theorem isBlank_eq_false_of_isAsciiDigit {c : Char} (h : isAsciiDigit c = true) :
    isBlank c = false := by
  have hcode : 48 ≤ c.toNat ∧ c.toNat ≤ 57 := by
    simpa [isAsciiDigit, Char.le_def, UInt32.le_iff_toNat_le] using h
  simp only [isBlank, inRuns, whiteSpace, List.any_cons, List.any_nil, CodeRun.contains,
    Bool.or_eq_false_iff, Bool.and_eq_false_iff, decide_eq_false_iff_not, and_true]
  omega

theorem digitsValue_eq (digits : List Char) :
    digitsValue digits = Nat.ofDigitChars 10 digits 0 := by
  rw [digitsValue, Nat.ofDigitChars_eq_foldl]
  congr 1
  funext n c
  rw [Nat.mul_comm]
  rfl

theorem AreDigits.not_plus {rest : List Char} {n : Nat} : ¬ AreDigits ('+' :: rest) n := fun h =>
  absurd (h.forall_digit '+' List.mem_cons_self) (by decide)

/-- A numeral is read just if it is written in digits, with an optional plus sign in front, and its
value fits. -/
theorem numeral?_eq_some_iff {limit n : Nat} {s : List Char} :
    numeral? limit s = some n ↔
      (∃ digits, AreDigits digits n ∧ (s = digits ∨ s = '+' :: digits)) ∧ n < limit := by
  have hread : ∀ digits : List Char,
      (if digits.isEmpty || !digits.all isAsciiDigit then none
        else if digitsValue digits < limit then some (digitsValue digits) else none) = some n ↔
      AreDigits digits n ∧ n < limit := by
    intro digits
    rw [Option.ite_none_left_eq_some, Option.ite_none_right_eq_some, Option.some.injEq,
      digitsValue_eq]
    constructor
    · rintro ⟨hdigits, hlimit, rfl⟩
      obtain ⟨hne, hall⟩ : digits ≠ [] ∧ ∀ c ∈ digits, isAsciiDigit c = true := by
        simpa using hdigits
      exact ⟨⟨hne, hall, rfl⟩, hlimit⟩
    · rintro ⟨⟨hne, hall, rfl⟩, hlimit⟩
      refine ⟨?_, hlimit, rfl⟩
      simpa [hne] using hall
  by_cases hsign : ∃ rest, s = '+' :: rest
  · obtain ⟨rest, rfl⟩ := hsign
    refine (hread rest).trans (and_congr_left fun _ => ⟨fun h => ⟨rest, h, Or.inr rfl⟩, ?_⟩)
    rintro ⟨digits, h, rfl | hrest⟩
    · exact absurd h AreDigits.not_plus
    · rwa [(List.cons.inj hrest).2]
  · -- without a sign the match falls through to the text itself
    rw [numeral?.eq_2 limit s fun rest h => hsign ⟨rest, h⟩]
    refine (hread s).trans (and_congr_left fun _ => ⟨fun h => ⟨s, h, Or.inl rfl⟩, ?_⟩)
    rintro ⟨digits, h, rfl | rfl⟩
    · exact h
    · exact absurd ⟨digits, rfl⟩ hsign

end Text

theorem isDigit_of_mem_toString {n : Nat} {c : Char} (hc : c ∈ (toString n).toList) :
    c.isDigit = true := by
  rw [Nat.toString_eq_ofList_toDigits, String.toList_ofList] at hc
  exact Nat.isDigit_of_mem_toDigits (by decide) (by decide) hc

theorem isAsciiDigit_of_isDigit {c : Char} (h : c.isDigit = true) :
    Text.isAsciiDigit c = true := by
  simpa [Text.isAsciiDigit, Char.isDigit, Char.le_def] using h

theorem areDigits_toString (n : Nat) : Text.AreDigits (toString n).toList n := by
  refine ⟨?_, fun c hc => isAsciiDigit_of_isDigit (isDigit_of_mem_toString hc), ?_⟩
  · rw [Nat.toString_eq_ofList_toDigits, String.toList_ofList]
    exact Nat.toDigits_ne_nil
  · rw [Nat.toString_eq_ofList_toDigits, String.toList_ofList, Nat.ofDigitChars_ten_toDigits]

namespace Text

/-- A number in digits with as many zeros in front as fill the width. -/
def padded (width n : Nat) : List Char := (toString n).toList.leftpad width '0'

theorem areDigits_padded (width n : Nat) : AreDigits (padded width n) n := by
  have hdigits := areDigits_toString n
  refine ⟨List.append_ne_nil_of_right_ne_nil _ hdigits.ne_nil, fun c hc => ?_, ?_⟩
  · rcases List.mem_append.mp hc with hzero | hdigit
    · rw [List.eq_of_mem_replicate hzero]
      decide
    · exact hdigits.forall_digit c hdigit
  · rw [padded, List.leftpad, Nat.ofDigitChars_append, Nat.ofDigitChars_replicate_zero,
      Nat.mul_zero, hdigits.value_eq]

theorem length_padded {width n : Nat} (hwidth : 0 < width) (h : n < 10 ^ width) :
    (padded width n).length = width := by
  have hfits : (toString n).toList.length ≤ width := by
    rw [Nat.toString_eq_ofList_toDigits, String.toList_ofList]
    exact (Nat.length_toDigits_le_iff (by decide) hwidth).mpr h
  rw [padded, List.length_leftpad]
  omega

end Text

theorem toString_nat_injective {m n : Nat} (h : toString m = toString n) : m = n := by
  have hdigits : Nat.toDigits 10 m = Nat.toDigits 10 n := by
    simpa only [Nat.toString_eq_ofList_toDigits, String.toList_ofList] using
      congrArg String.toList h
  rw [← Nat.ofDigitChars_ten_toDigits (n := m), hdigits, Nat.ofDigitChars_ten_toDigits]

end SchemaModels

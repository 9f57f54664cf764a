/-
Path names of plain names.

A plain name has ASCII letters and digits only.  Nothing in it separates words, so taking it apart
and putting it together in title case changes the case of letters and nothing else: what does not
depend on case is the same before and after, which is `map_className`.
-/
import Mathlib.Data.List.Basic
import SchemaModels.Proofs.ClassName

namespace SchemaModels

open Text

/-- A name of ASCII letters and digits. -/
def isPlain (name : String) : Bool := name.toList.all Char.isAlphanum

theorem isPlain_iff {name : String} :
    isPlain name = true ↔ ∀ c ∈ name.toList, c.isAlphanum = true :=
  List.all_eq_true

/-! ## Letters and digits -/

theorem toNat_lt_of_isAlphanum {c : Char} (h : c.isAlphanum = true) : c.toNat < 128 := by
  change (decide (c.val ≥ 'A'.val ∧ c.val ≤ 'Z'.val) || (c.val ≥ 'a'.val && c.val ≤ 'z'.val) ||
    (c.val ≥ '0'.val && c.val ≤ '9'.val)) = true at h
  simp only [Bool.or_eq_true, Bool.and_eq_true, decide_eq_true_eq, UInt32.le_iff_toNat_le] at h
  change c.val.toNat < 128
  rcases h with (⟨-, hlast⟩ | ⟨-, hlast⟩) | ⟨-, hlast⟩
  · exact Nat.lt_of_le_of_lt hlast (by decide)
  · exact Nat.lt_of_le_of_lt hlast (by decide)
  · exact Nat.lt_of_le_of_lt hlast (by decide)

/-- What holds of each ASCII letter and digit, checked one by one. -/
theorem forall_isAlphanum {P : Char → Prop}
    (h : ∀ n < 128, (Char.ofNat n).isAlphanum = true → P (Char.ofNat n)) {c : Char}
    (hc : c.isAlphanum = true) : P c := by
  have hP := h c.toNat (toNat_lt_of_isAlphanum hc)
  rw [Char.ofNat_toNat] at hP
  exact hP hc

theorem isAlphanum_toUpper {c : Char} (hc : c.isAlphanum = true) : c.toUpper.isAlphanum = true :=
  forall_isAlphanum (P := fun c => c.toUpper.isAlphanum = true) (by decide) hc

theorem isAlphanum_toLower {c : Char} (hc : c.isAlphanum = true) : c.toLower.isAlphanum = true :=
  forall_isAlphanum (P := fun c => c.toLower.isAlphanum = true) (by decide) hc

theorem not_separates_of_isAlphanum {c : Char} (hc : c.isAlphanum = true) :
    separatesWords c = false :=
  forall_isAlphanum (P := fun c => separatesWords c = false) (by decide) hc

theorem isUpper_of_isDigit {c : Char} (hc : c.isDigit = true) : isUpper c = false :=
  forall_isAlphanum (P := fun c => c.isDigit = true → isUpper c = false) (by decide)
    (by simp [Char.isAlphanum, hc]) hc

/-! ## Title case -/

section

variable {β : Type} {f : Char → β}

theorem map_titleCaseFrom
    (hf : ∀ c, c.isAlphanum = true → f c.toUpper = f c ∧ f c.toLower = f c) {afterLetter : Bool}
    {word : List Char} (h : ∀ c ∈ word, c.isAlphanum = true) :
    (titleCaseFrom afterLetter word).map f = word.map f := by
  induction word generalizing afterLetter with
  | nil => rfl
  | cons c rest ih =>
    have hc := h c List.mem_cons_self
    have hascii := toNat_lt_of_isAlphanum hc
    have hrest : (titleCaseFrom (isAlphabetic c) rest).map f = rest.map f :=
      ih fun d hd => h d (List.mem_cons_of_mem c hd)
    rw [titleCaseFrom, List.map_append, hrest, upper, lower, if_pos hascii, if_pos hascii]
    cases afterLetter with
    | false => simp [(hf c hc).1]
    | true => simp [(hf c hc).2]

theorem map_className
    (hf : ∀ c, c.isAlphanum = true → f c.toUpper = f c ∧ f c.toLower = f c) {name : String}
    (h : isPlain name = true) : (className name).toList.map f = name.toList.map f := by
  have hchars := isPlain_iff.mp h
  have hflatten : (splitWords name.toList).flatten = name.toList := by
    rw [flatten_splitWords, unseparated, List.filter_eq_self]
    intro c hc
    rw [not_separates_of_isAlphanum (hchars c hc), Bool.not_false]
  have hwords : ∀ word ∈ splitWords name.toList, (titleCase word).map f = word.map f := by
    intro word hword
    refine map_titleCaseFrom hf fun c hc => hchars c ?_
    rw [← hflatten]
    exact List.mem_flatten_of_mem hword hc
  calc (className name).toList.map f
      = (splitWords name.toList).flatMap fun word => (titleCase word).map f := by
        rw [className, String.toList_ofList, List.map_flatMap]
    _ = (splitWords name.toList).flatMap fun word => word.map f := List.flatMap_congr hwords
    _ = name.toList.map f := by
        rw [← List.map_flatMap, List.flatMap_id', hflatten]

end

theorem isPlain_className {name : String} (h : isPlain name = true) :
    isPlain (className name) = true := by
  have hmap : (className name).toList.map Char.isAlphanum = name.toList.map Char.isAlphanum :=
    map_className (fun c hc =>
      ⟨(isAlphanum_toUpper hc).trans hc.symm, (isAlphanum_toLower hc).trans hc.symm⟩) h
  refine isPlain_iff.mpr fun c hc => ?_
  have hmem : c.isAlphanum ∈ name.toList.map Char.isAlphanum := hmap ▸ List.mem_map_of_mem hc
  obtain ⟨d, hd, hdc⟩ := List.mem_map.mp hmem
  rw [← hdc]
  exact isPlain_iff.mp h d hd

theorem slugChar_eq_toLower {c : Char} (hc : c.isAlphanum = true) : slugChar c = c.toLower :=
  forall_isAlphanum (P := fun c => slugChar c = c.toLower) (by decide) hc

/-- The slug of a path name is the name in small letters. -/
theorem map_slugChar_className {name : String} (h : isPlain name = true) :
    (className name).toList.map slugChar = name.toList.map Char.toLower := by
  have hcase : ∀ c : Char, c.isAlphanum = true →
      slugChar c.toUpper = slugChar c ∧ slugChar c.toLower = slugChar c := fun c hc =>
    forall_isAlphanum
      (P := fun c => slugChar c.toUpper = slugChar c ∧ slugChar c.toLower = slugChar c)
      (by decide) hc
  rw [map_className hcase h]
  exact List.map_congr_left fun c hc => slugChar_eq_toLower (isPlain_iff.mp h c hc)

end SchemaModels

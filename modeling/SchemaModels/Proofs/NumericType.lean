/-
The conventions that say where the digits of a numeric type stand.

A convention is taken apart at the first bracket, the closing bracket at the end, the first point
and the first colon on either side of it.  None of these characters can be part of a position, so
there is one way to take a text apart: the texts that are read are those of one grammar, and every
convention is read from the text that it is printed as.
-/
import SchemaModels.NumericType
import SchemaModels.Proofs.Text.Numeral
import SchemaModels.Proofs.Text.Split

namespace SchemaModels

open Text

/-! ## Positions -/

/-- `s` is the position `n` in digits, with an optional plus sign in front and white space around
it. -/
def WritesPosition (s : List Char) (n : Nat) : Prop :=
  (∃ digits, AreDigits digits n ∧ (trim s = digits ∨ trim s = '+' :: digits)) ∧ n < longLimit

theorem numeral?_trim_eq_some_iff {s : List Char} {n : Nat} :
    numeral? longLimit (trim s) = some n ↔ WritesPosition s n := numeral?_eq_some_iff

theorem WritesPosition.mem {s : List Char} {n : Nat} (h : WritesPosition s n) {c : Char}
    (hc : c ∈ s) : isBlank c = true ∨ c = '+' ∨ isAsciiDigit c = true := by
  obtain ⟨⟨digits, hdigits, htrim⟩, -⟩ := h
  rcases blank_or_mem_trim hc with hblank | hmem
  · exact Or.inl hblank
  rcases htrim with htrim | htrim
  · rw [htrim] at hmem
    exact Or.inr (Or.inr (hdigits.forall_digit c hmem))
  · rw [htrim, List.mem_cons] at hmem
    exact Or.inr (hmem.imp_right (hdigits.forall_digit c))

theorem WritesPosition.not_mem_colon {s : List Char} {n : Nat} (h : WritesPosition s n) :
    ':' ∉ s := fun hc => absurd (h.mem hc) (by decide)

theorem WritesPosition.not_mem_point {s : List Char} {n : Nat} (h : WritesPosition s n) :
    '.' ∉ s := fun hc => absurd (h.mem hc) (by decide)

theorem writesPosition_toString {n : Nat} (h : n < longLimit) :
    WritesPosition (toString n).toList n := by
  have hdigits := areDigits_toString n
  have htrim : trim (toString n).toList = (toString n).toList :=
    trim_eq_self fun c hc => isBlank_eq_false_of_isAsciiDigit (hdigits.forall_digit c hc)
  exact ⟨⟨_, hdigits, Or.inl htrim⟩, h⟩

/-! ## Slices -/

/-- `s` is the slice from one position to a later one. -/
def WritesSlice (s : List Char) (slice : Slice) : Prop :=
  ∃ start stop, s = start ++ ':' :: stop ∧ WritesPosition start slice.start ∧
    WritesPosition stop slice.stop

theorem sliceRead?_eq_some_iff {s : List Char} {slice : Slice} :
    Slice.read? s = some slice ↔ WritesSlice s slice := by
  constructor
  · intro h
    simp only [Slice.read?, Option.bind_eq_bind, Option.bind_eq_some_iff] at h
    obtain ⟨⟨start, stop⟩, hsplit, first, hfirst, last, hlast, hslice⟩ := h
    split at hslice
    · cases hslice
      exact ⟨start, stop, (splitFirst?_char_eq_some_iff.mp hsplit).1,
        numeral?_trim_eq_some_iff.mp hfirst, numeral?_trim_eq_some_iff.mp hlast⟩
    · exact absurd hslice (by simp)
  · rintro ⟨start, stop, rfl, hstart, hstop⟩
    have hsplit := splitFirst?_char_eq_some_iff.mpr ⟨(rfl : start ++ ':' :: stop = _),
      hstart.not_mem_colon⟩
    simp [Slice.read?, hsplit, numeral?_trim_eq_some_iff.mpr hstart,
      numeral?_trim_eq_some_iff.mpr hstop, slice.start_lt_stop]

theorem writesSlice_toString {slice : Slice} (h : slice.stop < longLimit) :
    WritesSlice ((toString slice.start).toList ++ ':' :: (toString slice.stop).toList) slice :=
  ⟨_, _, rfl, writesPosition_toString (slice.start_lt_stop.trans h), writesPosition_toString h⟩

theorem WritesSlice.not_mem_point {s : List Char} {slice : Slice} (h : WritesSlice s slice) :
    '.' ∉ s := by
  obtain ⟨start, stop, rfl, hstart, hstop⟩ := h
  simp [hstart.not_mem_point, hstop.not_mem_point]

/-! ## Conventions -/

/-- `text` is a beginning without a bracket and two slices in brackets, divided by a point. -/
def WritesSlices (text start : String) (integer decimal : Slice) : Prop :=
  ∃ first last, text.toList = start.toList ++ '[' :: (first ++ '.' :: last ++ [']']) ∧
    '[' ∉ start.toList ∧ WritesSlice first integer ∧ WritesSlice last decimal

theorem readSlices?_eq_some_iff {text : String} {convention : NumericConvention} :
    readSlices? text.toList = some convention ↔
      ∃ start integer decimal, convention = .bySlices start integer decimal ∧
        WritesSlices text start integer decimal := by
  constructor
  · intro h
    simp only [readSlices?, Option.bind_eq_bind, Option.bind_eq_some_iff] at h
    obtain ⟨⟨start, rest⟩, hopen, inner, hclose, ⟨first, last⟩, hpoint, integer, hinteger,
      decimal, hdecimal, hconvention⟩ := h
    obtain ⟨htext, hstart⟩ := splitFirst?_char_eq_some_iff.mp hopen
    obtain rfl := before?_eq_some_iff.mp hclose
    obtain ⟨rfl, -⟩ := splitFirst?_char_eq_some_iff.mp hpoint
    refine ⟨String.ofList start, integer, decimal, (Option.some.inj hconvention).symm, first, last,
      ?_, ?_, sliceRead?_eq_some_iff.mp hinteger, sliceRead?_eq_some_iff.mp hdecimal⟩
    · rwa [String.toList_ofList]
    · rwa [String.toList_ofList]
  · rintro ⟨start, integer, decimal, rfl, first, last, htext, hstart, hinteger, hdecimal⟩
    -- Each separator that was written is the first of its kind, as no part before it holds one.
    have hopen := splitFirst?_char_eq_some_iff.mpr ⟨htext, hstart⟩
    have hclose : before? [']'] (first ++ '.' :: last ++ [']']) = some (first ++ '.' :: last) :=
      before?_eq_some_iff.mpr rfl
    have hpoint : splitFirst? ['.'] (first ++ '.' :: last) = some (first, last) :=
      splitFirst?_char_eq_some_iff.mpr ⟨rfl, hinteger.not_mem_point⟩
    simp only [readSlices?, hopen, hclose, hpoint, sliceRead?_eq_some_iff.mpr hinteger,
      sliceRead?_eq_some_iff.mpr hdecimal, Option.bind_eq_bind, Option.bind_some,
      String.ofList_toList]
    rfl

theorem ofSlices_eq_ok_iff {text : String} {convention : NumericConvention} :
    NumericConvention.ofSlices text = .ok convention ↔
      readSlices? text.toList = some convention := by
  rw [NumericConvention.ofSlices]
  split <;> simp_all

theorem ofSlices_eq_error_iff {text : String} :
    NumericConvention.ofSlices text = .error (.invalidNumericConvention text) ↔
      readSlices? text.toList = none := by
  rw [NumericConvention.ofSlices]
  split <;> simp_all

def slicesText (start : String) (integer decimal : Slice) : String :=
  start ++ "[" ++ toString integer.start ++ ":" ++ toString integer.stop ++ "." ++
    toString decimal.start ++ ":" ++ toString decimal.stop ++ "]"

theorem writesSlices_slicesText {start : String} {integer decimal : Slice}
    (hstart : '[' ∉ start.toList) (hinteger : integer.stop < longLimit)
    (hdecimal : decimal.stop < longLimit) :
    WritesSlices (slicesText start integer decimal) start integer decimal := by
  refine ⟨_, _, ?_, hstart, writesSlice_toString hinteger, writesSlice_toString hdecimal⟩
  simp [slicesText]

/-- A text is read as a convention just if it is one of the grammar, as the convention it writes;
any other text is named in the error, and what is printed is read back. -/
theorem slices_read_by_grammar :
    (∀ text : String,
      (∀ convention, NumericConvention.ofSlices text = .ok convention ↔
        ∃ start integer decimal, convention = .bySlices start integer decimal ∧
          WritesSlices text start integer decimal) ∧
      (NumericConvention.ofSlices text = .error (.invalidNumericConvention text) ↔
        ¬ ∃ start integer decimal, WritesSlices text start integer decimal)) ∧
    ∀ (start : String) (integer decimal : Slice), '[' ∉ start.toList →
      integer.stop < longLimit → decimal.stop < longLimit →
      NumericConvention.ofSlices (slicesText start integer decimal) =
        .ok (.bySlices start integer decimal) := by
  refine ⟨fun text => ⟨fun convention => ?_, ?_⟩, ?_⟩
  · rw [ofSlices_eq_ok_iff, readSlices?_eq_some_iff]
  · rw [ofSlices_eq_error_iff, Option.eq_none_iff_forall_ne_some]
    constructor
    · rintro hnone ⟨start, integer, decimal, h⟩
      exact hnone _ (readSlices?_eq_some_iff.mpr ⟨start, integer, decimal, rfl, h⟩)
    · intro hnone convention hread
      obtain ⟨start, integer, decimal, -, h⟩ := readSlices?_eq_some_iff.mp hread
      exact hnone ⟨start, integer, decimal, h⟩
  · intro start integer decimal hstart hinteger hdecimal
    rw [ofSlices_eq_ok_iff, readSlices?_eq_some_iff]
    exact ⟨start, integer, decimal, rfl, writesSlices_slicesText hstart hinteger hdecimal⟩

theorem slices_read_back :
    slicesText "TDec_" ⟨5, 7, by decide⟩ ⟨7, 9, by decide⟩ = "TDec_[5:7.7:9]" ∧
      NumericConvention.ofSlices "TDec_[5:7.7:9]" =
        .ok (.bySlices "TDec_" ⟨5, 7, by decide⟩ ⟨7, 9, by decide⟩) := by
  have hprint : slicesText "TDec_" ⟨5, 7, by decide⟩ ⟨7, 9, by decide⟩ = "TDec_[5:7.7:9]" := by
    decide
  refine ⟨hprint, ?_⟩
  rw [← hprint]
  exact slices_read_by_grammar.2 "TDec_" _ _ (by decide) (by decide) (by decide)

end SchemaModels

/-
The digits that a type name carries are read back.

A name is made of a beginning, the integer digits, the decimal digits and anything behind them; each
digit may have a version marker.  The markers shift all that stands behind them, and the positions
of a convention count bytes, so the name is followed in that order: without its markers it is the
beginning and the digits, and a digit is one byte wide.
-/
import Mathlib.Data.List.Chain
import Mathlib.Data.String.Basic
import SchemaModels.Proofs.NumericType

namespace SchemaModels

open Text

/-! ## Bytes -/

/-- A text that is not empty has bytes, and behind those of its first character the others. -/
theorem exists_utf8Len_cons (c : Char) (s : List Char) :
    ∃ n, String.utf8Len (c :: s) = n + 1 ∧ c.utf8Size ≤ n + 1 ∧
      n + 1 - c.utf8Size = String.utf8Len s := by
  have hpos := c.utf8Size_pos
  refine ⟨String.utf8Len s + c.utf8Size - 1, ?_⟩
  rw [String.utf8Len_cons]
  omega

theorem dropBytes_append (s rest : List Char) :
    dropBytes (String.utf8Len s) (s ++ rest) = some rest := by
  induction s with
  | nil => rw [String.utf8Len_nil, List.nil_append, dropBytes]
  | cons c s ih =>
    obtain ⟨n, hlength, hfits, hrest⟩ := exists_utf8Len_cons c s
    rw [hlength, List.cons_append, dropBytes, if_pos hfits, hrest, ih]

theorem takeBytes_append (s rest : List Char) :
    takeBytes (String.utf8Len s) (s ++ rest) = some s := by
  induction s with
  | nil => rw [String.utf8Len_nil, takeBytes]
  | cons c s ih =>
    obtain ⟨n, hlength, hfits, hrest⟩ := exists_utf8Len_cons c s
    rw [hlength, List.cons_append, takeBytes, if_pos hfits, hrest, ih]
    rfl

/-- A slice is what stands between its positions. -/
theorem Slice.of_append {slice : Slice} {before s : List Char} (rest : List Char)
    (hstart : slice.start = String.utf8Len before)
    (hstop : slice.stop = String.utf8Len before + String.utf8Len s) :
    slice.of (before ++ (s ++ rest)) = some s := by
  have hwidth : slice.stop - slice.start = String.utf8Len s := by omega
  rw [Slice.of, hwidth, hstart, dropBytes_append]
  exact takeBytes_append s rest

theorem utf8Len_of_digits {digits : List Char} (h : ∀ c ∈ digits, isAsciiDigit c = true) :
    String.utf8Len digits = digits.length := by
  induction digits with
  | nil => rfl
  | cons c digits ih =>
    have hdigit := h c List.mem_cons_self
    have hsize : c.utf8Size = 1 := by
      have hcode : c.val ≤ 57 := by
        simp only [isAsciiDigit, Bool.and_eq_true, decide_eq_true_eq, Char.le_def] at hdigit
        exact hdigit.2
      rw [Char.utf8Size_eq_one_iff]
      exact UInt32.le_trans hcode (by decide)
    rw [String.utf8Len_cons, ih fun d hd => h d (List.mem_cons_of_mem c hd), hsize,
      List.length_cons]

/-! ## Version markers -/

/-- No ASCII digit has a `v` behind it. -/
def IsUnmarked (s : List Char) : Prop := s.IsChain fun c d => isAsciiDigit c = true → d ≠ 'v'

instance (s : List Char) : Decidable (IsUnmarked s) :=
  inferInstanceAs (Decidable (List.IsChain _ s))

/-- `text` is `digits` with at most one version marker behind each of them. -/
inductive Marked : List Char → List Char → Prop where
  | nil : Marked [] []
  | plain (c : Char) {digits text : List Char} : Marked digits text →
      Marked (c :: digits) (c :: text)
  | marked (c : Char) {digits text : List Char} : Marked digits text →
      Marked (c :: digits) (c :: 'v' :: text)

theorem stripMarkersFrom_cons_of_ne {c : Char} (hc : c ≠ 'v') (afterDigit : Bool)
    (s : List Char) :
    stripMarkersFrom afterDigit (c :: s) = c :: stripMarkersFrom (isAsciiDigit c) s := by
  rw [stripMarkersFrom, if_neg fun h => hc h.1]

theorem ne_v_of_isAsciiDigit {c : Char} (h : isAsciiDigit c = true) : c ≠ 'v' := by
  rintro rfl
  exact absurd h (by decide)

/-- The digits come out without their markers, whatever stands behind them. -/
theorem Marked.strip {digits text : List Char} (h : Marked digits text)
    (hdigits : ∀ c ∈ digits, isAsciiDigit c = true) (afterDigit : Bool) (rest : List Char) :
    ∃ behind, stripMarkersFrom afterDigit (text ++ rest) =
      digits ++ stripMarkersFrom behind rest := by
  induction h generalizing afterDigit with
  | nil => exact ⟨afterDigit, rfl⟩
  | plain c _ ih =>
    obtain ⟨hc, hdigits⟩ := List.forall_mem_cons.mp hdigits
    obtain ⟨behind, hstrip⟩ := ih hdigits (isAsciiDigit c)
    refine ⟨behind, ?_⟩
    rw [List.cons_append, stripMarkersFrom_cons_of_ne (ne_v_of_isAsciiDigit hc), hstrip,
      List.cons_append]
  | marked c _ ih =>
    obtain ⟨hc, hdigits⟩ := List.forall_mem_cons.mp hdigits
    obtain ⟨behind, hstrip⟩ := ih hdigits false
    refine ⟨behind, ?_⟩
    rw [List.cons_append, stripMarkersFrom_cons_of_ne (ne_v_of_isAsciiDigit hc), List.cons_append,
      stripMarkersFrom, if_pos ⟨rfl, hc⟩, hstrip, List.cons_append]

theorem IsUnmarked.strip {s : List Char} (h : IsUnmarked s) {afterDigit : Bool}
    (hfirst : afterDigit = true → s.head? ≠ some 'v') (rest : List Char) :
    ∃ behind, stripMarkersFrom afterDigit (s ++ rest) = s ++ stripMarkersFrom behind rest := by
  induction s generalizing afterDigit with
  | nil => exact ⟨afterDigit, rfl⟩
  | cons c s ih =>
    obtain ⟨hnext, htail⟩ := List.isChain_cons.mp h
    have hhead : isAsciiDigit c = true → s.head? ≠ some 'v' := fun hc hv =>
      hnext 'v' hv hc rfl
    obtain ⟨behind, hstrip⟩ := ih htail hhead
    refine ⟨behind, ?_⟩
    have hkept : ¬ (c = 'v' ∧ afterDigit = true) := by
      rintro ⟨rfl, hafter⟩
      exact hfirst hafter rfl
    rw [List.cons_append, stripMarkersFrom, if_neg hkept, hstrip, List.cons_append]

/-! ## Names with digits -/

/-- The place of the integer digits right behind a beginning. -/
def integerSlice (start : String) (integer : Nat) (h : 0 < integer) : Slice :=
  ⟨start.utf8ByteSize, start.utf8ByteSize + integer, by omega⟩

def decimalSlice (start : String) (integer decimal : Nat) (h : 0 < decimal) : Slice :=
  ⟨start.utf8ByteSize + integer, start.utf8ByteSize + integer + decimal, by omega⟩

/-- The type name carries `digits` behind its beginning: both numbers are padded with zeros to their
widths, each digit may have a version marker, and anything may follow. -/
def CarriesDigits (type start : String) (integer decimal : Nat) (digits : Precision) : Prop :=
  ∃ text rest, Marked (padded integer digits.integer ++ padded decimal digits.decimal) text ∧
    type.toList = start.toList ++ (text ++ rest)

section

variable {start type : String} {integer decimal : Nat} {digits : Precision}

/-- Without its markers a name is the beginning, the digits and a rest. -/
theorem CarriesDigits.stripMarkers_eq (h : CarriesDigits type start integer decimal digits)
    (hstart : IsUnmarked start.toList) :
    ∃ rest, stripMarkers type.toList = start.toList ++
      (padded integer digits.integer ++ (padded decimal digits.decimal ++ rest)) := by
  obtain ⟨text, rest, hmarked, htype⟩ := h
  have hdigits : ∀ c ∈ padded integer digits.integer ++ padded decimal digits.decimal,
      isAsciiDigit c = true := fun c hc =>
    (List.mem_append.mp hc).elim ((areDigits_padded _ _).forall_digit c)
      ((areDigits_padded _ _).forall_digit c)
  have hbefore : false = true → start.toList.head? ≠ some 'v' := fun h => absurd h (by decide)
  obtain ⟨first, hfirst⟩ := hstart.strip hbefore (text ++ rest)
  obtain ⟨last, hlast⟩ := hmarked.strip hdigits first rest
  refine ⟨stripMarkersFrom last rest, ?_⟩
  rw [stripMarkers, htype, hfirst, hlast, List.append_assoc]

theorem utf8Len_padded {width n : Nat} (hwidth : 0 < width) (h : n < 10 ^ width) :
    String.utf8Len (padded width n) = width := by
  rw [utf8Len_of_digits (areDigits_padded width n).forall_digit, length_padded hwidth h]

theorem numeral?_padded {limit width n : Nat} (h : n < limit) :
    numeral? limit (padded width n) = some n :=
  numeral?_eq_some_iff.mpr ⟨⟨_, areDigits_padded width n, Or.inl rfl⟩, h⟩

theorem utf8ByteSize_eq (s : String) : s.utf8ByteSize = String.utf8Len s.toList := by
  rw [← String.utf8ByteSize_ofList, String.ofList_toList]

theorem CarriesDigits.digits?_eq (h : CarriesDigits type start integer decimal digits)
    (hstart : IsUnmarked start.toList) (hinteger : 0 < integer) (hdecimal : 0 < decimal)
    (hfits : digits.integer < 10 ^ integer ∧ digits.decimal < 10 ^ decimal)
    (hword : digits.integer < wordLimit ∧ digits.decimal < wordLimit) :
    (NumericConvention.bySlices start (integerSlice start integer hinteger)
      (decimalSlice start integer decimal hdecimal)).digits? type = some digits := by
  obtain ⟨rest, hname⟩ := h.stripMarkers_eq hstart
  have hbefore := utf8ByteSize_eq start
  have hfirst := utf8Len_padded hinteger hfits.1
  have hlast := utf8Len_padded hdecimal hfits.2
  have hints : (integerSlice start integer hinteger).of (stripMarkers type.toList) =
      some (padded integer digits.integer) := by
    rw [hname]
    refine Slice.of_append _ hbefore ?_
    rw [hfirst, ← hbefore]
    rfl
  have hdecs : (decimalSlice start integer decimal hdecimal).of (stripMarkers type.toList) =
      some (padded decimal digits.decimal) := by
    rw [hname, ← List.append_assoc]
    refine Slice.of_append _ ?_ ?_
    · rw [String.utf8Len_append, hfirst, ← hbefore]
      rfl
    · rw [String.utf8Len_append, hfirst, hlast, ← hbefore]
      rfl
  simp only [NumericConvention.digits?, hints, hdecs, numeral?_padded hword.1,
    numeral?_padded hword.2, Option.bind_eq_bind, Option.bind_some]
  rfl

theorem CarriesDigits.isNumber (h : CarriesDigits type start integer decimal digits)
    (first last : Slice) : (NumericConvention.bySlices start first last).isNumber type = true := by
  obtain ⟨text, rest, -, htype⟩ := h
  rw [NumericConvention.isNumber, beginsWith_iff, htype]
  exact List.prefix_append start.toList (text ++ rest)

/-- A convention printed with the places of the digits is read, if they are 64-bit words.  Under it
the digits of a name are read back, however they are marked, and a type that is not money by its
name alone is money just if it has the decimal places of money and its attribute is no
percentage. -/
theorem carried_digits_decide (hbracket : '[' ∉ start.toList) (hstart : IsUnmarked start.toList)
    (hinteger : 0 < integer) (hdecimal : 0 < decimal)
    (hfits : digits.integer < 10 ^ integer ∧ digits.decimal < 10 ^ decimal)
    (hword : digits.integer < wordLimit ∧ digits.decimal < wordLimit)
    (htype : CarriesDigits type start integer decimal digits) :
    let first := integerSlice start integer hinteger
    let last := decimalSlice start integer decimal hdecimal
    (last.stop < longLimit →
      NumericConvention.read (slicesText start first last) = .ok (.bySlices start first last)) ∧
    (NumericConvention.bySlices start first last).digits? type = some digits ∧
    ∀ classifier : NumericClassifier, classifier.convention = .bySlices start first last →
      (∀ money ∈ classifier.monetaryType, ¬ money.toList <+: type.toList) →
      ∀ name, classifier.classify name type =
        some (if digits.decimal = classifier.monetaryDigits ∧ isPercentage name = false
          then .monetary else .float digits) := by
  intro first last
  have hdigits := htype.digits?_eq hstart hinteger hdecimal hfits hword
  refine ⟨fun hlimit => ?_, hdigits, fun classifier hconvention hmoney name => ?_⟩
  · have hopen : (slicesText start first last).toList.contains '[' = true := by
      simp [slicesText]
    rw [NumericConvention.read, if_pos hopen]
    have hfirst : first.stop < longLimit := Nat.lt_of_le_of_lt (Nat.le_add_right _ _) hlimit
    rw [ofSlices_eq_ok_iff, readSlices?_eq_some_iff]
    exact ⟨start, first, last, rfl, writesSlices_slicesText hbracket hfirst hlimit⟩
  · have hnot : (classifier.monetaryType.any fun money =>
        beginsWith money.toList type.toList) = false := by
      rw [Bool.eq_false_iff, ne_eq, Option.any_eq_true]
      rintro ⟨money, hmem, hbegins⟩
      exact hmoney money hmem (beginsWith_iff.mp hbegins)
    have hnumber := htype.isNumber first last
    rw [NumericClassifier.classify, hnot, hconvention, hnumber, hdigits]
    by_cases hdecimals : digits.decimal = classifier.monetaryDigits
    · cases hpercent : isPercentage name <;> simp [NumericConvention.encodesDigits, hdecimals]
    · simp [NumericConvention.encodesDigits, hdecimals]

end

/-- Thirteen integer and two decimal digits, with markers between them and text behind. -/
theorem marked_digits_decide :
    let type := "TDec_1v30v2v_Opc"
    let first := integerSlice "TDec_" 2 (by decide)
    let last := decimalSlice "TDec_" 2 2 (by decide)
    CarriesDigits type "TDec_" 2 2 ⟨13, 2⟩ ∧ slicesText "TDec_" first last = "TDec_[5:7.7:9]" ∧
      ∀ name, NumericClassifier.classify ⟨.bySlices "TDec_" first last, some "TDec_03", 2⟩ name
        type = some (if isPercentage name = false then .monetary else .float ⟨13, 2⟩) := by
  intro type first last
  have hmarked : Marked (padded 2 13 ++ padded 2 2) "1v30v2v".toList :=
    .marked '1' (.plain '3' (.marked '0' (.marked '2' .nil)))
  have htype : CarriesDigits type "TDec_" 2 2 ⟨13, 2⟩ :=
    ⟨"1v30v2v".toList, "_Opc".toList, hmarked, by decide⟩
  refine ⟨htype, by decide, fun name => ?_⟩
  have hclassify := (carried_digits_decide (by decide) (by decide) (by decide) (by decide)
    (by decide) (by decide) htype).2.2 ⟨.bySlices "TDec_" first last, some "TDec_03", 2⟩ rfl
    (by decide) name
  rw [hclassify]
  simp

end SchemaModels

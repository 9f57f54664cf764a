/-
The tokens of the texts that literals are written as.

A text is scanned to certain tokens if they come out whatever is written behind it, as long as that
begins with a delimiter: a name or a number could go on otherwise.
-/
import Mathlib.Tactic.IntervalCases
import SchemaModels.Proofs.ClassName.Plain
import SchemaModels.Proofs.Source.Reader

namespace SchemaModels
namespace LineReader

/-! ## Tokens one by one -/

def isDelimiter (c : Char) : Bool := [' ', '(', ')', '=', ',', '.'].contains c

/-- What is left of a line ends the token before it. -/
def Delimited (rest : List Char) : Prop := ∀ c ∈ rest.head?, isDelimiter c = true

/-- A text is scanned to certain tokens, and so is what stands behind it to its own. -/
def Scans (text : List Char) (tokens : List Token) : Prop :=
  ∀ rest, Delimited rest →
    Scan.between.tokens (text ++ rest) = (Scan.between.tokens rest).map (tokens ++ ·)

theorem isDelimiter_cases {c : Char} (h : isDelimiter c = true) :
    c = ' ' ∨ c = '(' ∨ c = ')' ∨ c = '=' ∨ c = ',' ∨ c = '.' := by
  simpa [isDelimiter] using h

theorem delimited_cons {c : Char} {rest : List Char} (h : isDelimiter c = true) :
    Delimited (c :: rest) := by
  intro d hd
  rwa [← Option.some.inj hd]

namespace Scan

theorem tokens_cons {scan next : Scan} {c : Char} {done : List Token} {rest : List Char}
    (h : scan.step c = some (done, next)) :
    scan.tokens (c :: rest) = (next.tokens rest).map (done ++ ·) := by
  rw [tokens, h]
  rfl

theorem tokens_cons_within {scan next : Scan} {c : Char} {rest : List Char}
    (h : scan.step c = some ([], next)) : scan.tokens (c :: rest) = next.tokens rest :=
  (tokens_cons h).trans Option.map_id_apply

/-- Where a delimiter completes the token that is being read, reading goes on behind the token. -/
theorem tokens_of_delimited {scan : Scan} {token : Token} {rest : List Char}
    (hfinish : scan.finish = some [token])
    (hstep : ∀ c, isDelimiter c = true → scan.step c = startAfter token c)
    (hrest : Delimited rest) :
    scan.tokens rest = (between.tokens rest).map ([token] ++ ·) := by
  cases rest with
  | nil => rw [tokens, hfinish, tokens, finish, Option.map_some, List.append_nil]
  | cons c rest =>
    have hafter := hstep c (hrest c rfl)
    rw [tokens, hafter, startAfter, tokens, step]
    cases start c with
    | none => rfl
    | some result =>
      simp only [Option.map_some, Option.bind_some, Option.map_map]
      rfl

theorem tokens_blank (rest : List Char) : between.tokens (' ' :: rest) = between.tokens rest :=
  tokens_cons_within (show between.step ' ' = some ([], between) from rfl)

theorem tokens_sign {c : Char} (hc : isSign c = true) (rest : List Char) :
    between.tokens (c :: rest) = (between.tokens rest).map ([.sign c] ++ ·) := by
  have hsigns : c = '(' ∨ c = ')' ∨ c = '=' ∨ c = ',' ∨ c = '.' ∨ c = '-' := by
    simpa [isSign] using hc
  rcases hsigns with rfl | rfl | rfl | rfl | rfl | rfl <;> exact tokens_cons rfl

/-! ## Names -/

theorem start_namePart {c : Char} (hc : isNamePart c = true) :
    start c = some ([], if isLetter c then name [c] else number [c]) := by
  have hblank : c ≠ ' ' := by
    rintro rfl
    exact absurd hc (by decide)
  have hquote : c ≠ '"' := by
    rintro rfl
    exact absurd hc (by decide)
  rw [start, if_neg hblank, if_neg hquote]
  by_cases hletter : isLetter c = true
  · rw [if_pos hletter, if_pos hletter]
  · have hdigit : c.isDigit = true := by simpa [isNamePart, hletter] using hc
    rw [if_neg hletter, if_neg hletter, if_pos hdigit]

theorem start_letter {c : Char} (hc : isLetter c = true) : start c = some ([], name [c]) := by
  rw [start_namePart (by simp [isNamePart, hc]), if_pos hc]

theorem tokens_name_append {more : List Char} (hmore : ∀ c ∈ more, isNamePart c = true)
    (read rest : List Char) :
    (name read).tokens (more ++ rest) = (name (read ++ more)).tokens rest := by
  induction more generalizing read with
  | nil => rw [List.nil_append, List.append_nil]
  | cons c more ih =>
    obtain ⟨hc, hmore⟩ := List.forall_mem_cons.mp hmore
    have hstep : (name read).step c = some ([], name (read ++ [c])) := by rw [step, if_pos hc]
    rw [List.cons_append, tokens_cons_within hstep, ih hmore, List.append_assoc,
      List.singleton_append]

end Scan

theorem scans_name {name : String} (h : isIdentifier name = true) :
    Scans name.toList [.name name] := by
  intro rest hrest
  unfold isIdentifier at h
  split at h
  · exact absurd h (by decide)
  rename_i c more hname
  obtain ⟨hc, hmore⟩ := Bool.and_eq_true_iff.mp h
  have hend : ∀ d, isDelimiter d = true →
      (Scan.name name.toList).step d = Scan.startAfter (.name name) d := by
    intro d hd
    have hpart : isNamePart d = false := by
      rcases isDelimiter_cases hd with rfl | rfl | rfl | rfl | rfl | rfl <;> decide
    rw [Scan.step, if_neg (by simp [hpart]), String.ofList_toList]
  have hread : Scan.between.tokens (name.toList ++ rest) = (Scan.name name.toList).tokens rest := by
    have hfirst : Scan.between.step c = some ([], .name [c]) := Scan.start_letter hc
    rw [hname, List.cons_append, Scan.tokens_cons_within hfirst,
      Scan.tokens_name_append (List.all_eq_true.mp hmore), List.singleton_append]
  rw [hread]
  refine Scan.tokens_of_delimited ?_ hend hrest
  rw [Scan.finish, String.ofList_toList]

/-! ## Numbers -/

/-- A number that is written has no leading zero. -/
theorem head_toDigits_ne {n : Nat} (hn : n ≠ 0) : (Nat.toDigits 10 n).head? ≠ some '0' := by
  induction n using Nat.strong_induction_on with
  | _ n ih =>
    rw [Nat.toDigits_eq_if (by decide)]
    split
    · rename_i hsmall
      interval_cases n <;> first | exact absurd rfl hn | decide
    · rename_i hlarge
      have hquotient : n / 10 ≠ 0 := by omega
      cases hhead : (Nat.toDigits 10 (n / 10)).head? with
      | none => exact absurd (List.head?_eq_none_iff.mp hhead) Nat.toDigits_ne_nil
      | some c =>
        rw [List.head?_append, hhead, Option.some_or, ← hhead]
        exact ih (n / 10) (by omega) hquotient

theorem number?_toDigits (n : Nat) : number? (Nat.toDigits 10 n) = some (.number n) := by
  rw [number?, Nat.ofDigitChars_ten_toDigits, if_neg]
  rintro ⟨hzero, hdigits⟩
  cases n with
  | zero => exact hdigits rfl
  | succ n => exact head_toDigits_ne (by omega) hzero

namespace Scan

theorem start_digit {c : Char} (hc : c.isDigit = true) : start c = some ([], number [c]) := by
  have hletter : isLetter c = false :=
    forall_isAlphanum (P := fun c => c.isDigit = true → isLetter c = false) (by decide)
      (by simp [Char.isAlphanum, hc]) hc
  rw [start_namePart (by simp [isNamePart, hc]), if_neg (by simp [hletter])]

theorem tokens_number_append {more : List Char} (hmore : ∀ c ∈ more, c.isDigit = true)
    (read rest : List Char) :
    (number read).tokens (more ++ rest) = (number (read ++ more)).tokens rest := by
  induction more generalizing read with
  | nil => rw [List.nil_append, List.append_nil]
  | cons c more ih =>
    obtain ⟨hc, hmore⟩ := List.forall_mem_cons.mp hmore
    have hstep : (number read).step c = some ([], number (read ++ [c])) := by rw [step, if_pos hc]
    rw [List.cons_append, tokens_cons_within hstep, ih hmore, List.append_assoc,
      List.singleton_append]

end Scan

theorem scans_number (n : Nat) : Scans (toString n).toList [.number n] := by
  intro rest hrest
  rw [Nat.toString_eq_ofList_toDigits, String.toList_ofList]
  have hend : ∀ d, isDelimiter d = true →
      (Scan.number (Nat.toDigits 10 n)).step d = Scan.startAfter (.number n) d := by
    intro d hd
    have hdigit : d.isDigit = false ∧ isLetter d = false := by
      rcases isDelimiter_cases hd with rfl | rfl | rfl | rfl | rfl | rfl <;> decide
    rw [Scan.step, if_neg (by simp [hdigit.1]), if_neg (by simp [hdigit.2]), number?_toDigits]
    rfl
  have hread : Scan.between.tokens (Nat.toDigits 10 n ++ rest) =
      (Scan.number (Nat.toDigits 10 n)).tokens rest := by
    have hdigits : ∀ c ∈ Nat.toDigits 10 n, c.isDigit = true := fun c hc =>
      Nat.isDigit_of_mem_toDigits (by decide) (by decide) hc
    cases h : Nat.toDigits 10 n with
    | nil => exact absurd h Nat.toDigits_ne_nil
    | cons c more =>
      obtain ⟨hc, hmore⟩ := List.forall_mem_cons.mp (h ▸ hdigits)
      have hfirst : Scan.between.step c = some ([], .number [c]) := Scan.start_digit hc
      rw [List.cons_append, Scan.tokens_cons_within hfirst, Scan.tokens_number_append hmore,
        List.singleton_append]
  rw [hread]
  refine Scan.tokens_of_delimited ?_ hend hrest
  rw [Scan.finish, number?_toDigits]
  rfl

theorem scans_int (i : Int) : Scans (toString i).toList
    (match i with
      | .ofNat n => [.number n]
      | .negSucc n => [.sign '-', .number (n + 1)]) := by
  cases i with
  | ofNat n => exact scans_number n
  | negSucc n =>
    intro rest hrest
    have htext : (toString (Int.negSucc n)).toList = '-' :: (toString (n + 1)).toList :=
      String.toList_append
    rw [htext, List.cons_append, Scan.tokens_sign (by decide), scans_number (n + 1) rest hrest,
      Option.map_map]
    rfl

/-! ## Texts -/

/-- A text without its carriage returns. -/
def withoutReturns (s : String) : String := String.ofList (s.toList.filter (· ≠ '\r'))

namespace Scan

theorem tokens_escape {c d : Char} (h : unescape? c = some d) (read rest : List Char) :
    (text read).tokens ('\\' :: c :: rest) = (text (read ++ [d])).tokens rest := by
  have hback : (text read).step '\\' = some ([], escape read) := rfl
  have hletter : (escape read).step c = some ([], text (read ++ [d])) := by rw [step, h]; rfl
  rw [tokens_cons_within hback, tokens_cons_within hletter]

/-- A character as it stands in a text is read as itself, or as nothing. -/
theorem tokens_escapeChar (c : Char) (read rest : List Char) :
    (text read).tokens (Literal.escapeChar c ++ rest) =
      (text (read ++ [c].filter (· ≠ '\r'))).tokens rest := by
  by_cases hback : c = '\\'
  · subst hback
    exact tokens_escape rfl read rest
  by_cases hquote : c = '"'
  · subst hquote
    exact tokens_escape rfl read rest
  by_cases hline : c = '\n'
  · subst hline
    exact tokens_escape rfl read rest
  by_cases hreturn : c = '\r'
  · subst hreturn
    exact congrArg (fun chars => (text chars).tokens rest) (List.append_nil read).symm
  by_cases htab : c = '\t'
  · subst htab
    exact tokens_escape rfl read rest
  have hstep : (text read).step c = some ([], text (read ++ [c])) := by
    rw [step, if_neg hquote, if_neg hback, if_neg (not_or.mpr ⟨hline, hreturn⟩)]
  have hself : Literal.escapeChar c = [c] := by
    rw [Literal.escapeChar, if_neg hback, if_neg hquote, if_neg hline, if_neg hreturn, if_neg htab]
  have hkept : [c].filter (· ≠ '\r') = [c] := List.filter_cons_of_pos (by simpa using hreturn)
  rw [hself, List.singleton_append, tokens_cons_within hstep, hkept]

theorem tokens_escaped (s read rest : List Char) :
    (text read).tokens (s.flatMap Literal.escapeChar ++ rest) =
      (text (read ++ s.filter (· ≠ '\r'))).tokens rest := by
  induction s generalizing read with
  | nil => rw [List.flatMap_nil, List.nil_append, List.filter_nil, List.append_nil]
  | cons c s ih =>
    rw [List.flatMap_cons, List.append_assoc, tokens_escapeChar, ih, List.append_assoc,
      ← List.filter_append, List.singleton_append]

end Scan

theorem scans_quote (s : String) : Scans (Literal.quote s).toList [.text (withoutReturns s)] := by
  intro rest hrest
  have hquoted : (Literal.quote s).toList ++ rest =
      '"' :: (s.toList.flatMap Literal.escapeChar ++ '"' :: rest) := by
    simp [Literal.quote, Literal.escape]
  have hopen : Scan.between.step '"' = some ([], .text []) := rfl
  rw [hquoted, Scan.tokens_cons_within hopen, Scan.tokens_escaped, List.nil_append]
  cases hread : s.toList.filter (· ≠ '\r') with
  | nil =>
    -- Of an empty text only the next character tells that it is not one between three quotes.
    have hclose : (Scan.text []).step '"' = some ([], .empty) := rfl
    rw [Scan.tokens_cons_within hclose, withoutReturns, hread]
    refine Scan.tokens_of_delimited rfl (fun d hd => ?_) hrest
    have hquote : d ≠ '"' := by
      rcases isDelimiter_cases hd with rfl | rfl | rfl | rfl | rfl | rfl <;> decide
    exact if_neg hquote
  | cons c more =>
    have hclose : (Scan.text (c :: more)).step '"' =
        some ([.text (String.ofList (c :: more))], .between) := rfl
    rw [Scan.tokens_cons hclose, withoutReturns, hread]

end LineReader
end SchemaModels

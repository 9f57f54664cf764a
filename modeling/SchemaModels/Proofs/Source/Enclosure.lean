/-
Literals between one or three quotes.

A literal is read character by character from its first quote.  Inside, a backslash takes the next
character along whatever it is, and as many quotes in a row as opened the literal close it.  What the
reader knows of a text inside a literal is whether its delimiter came up in it and, if not, how many
quotes at its end would count towards one.
-/
import Mathlib.Algebra.Group.Nat.Even
import SchemaModels.Proofs.Text.Words

namespace SchemaModels
namespace Enclosure

open Text

/-! ## Reading literals -/

/-- Where the reader of a literal is: before its text with some of the quotes read, inside it behind
some quotes in a row, behind a backslash, at the end, or past it. -/
inductive Place
  | opening (quotes : Nat)
  | inside (quotes : Nat)
  | escaped
  | closed
  | broken
deriving DecidableEq

/-- One character of a literal between `n` quotes. -/
def Place.step (n : Nat) : Place → Char → Place
  | opening quotes, c =>
    if c = '"' then (if quotes + 1 = n then inside 0 else opening (quotes + 1)) else broken
  | inside quotes, c =>
    if c = '"' then (if quotes + 1 = n then closed else inside (quotes + 1))
    else if c = '\\' then escaped
    else inside 0
  | escaped, _ => inside 0
  | closed, _ => broken
  | broken, _ => broken

def Place.read (n : Nat) (place : Place) (s : List Char) : Place := s.foldl (step n) place

def tripleQuote : List Char := List.replicate 3 '"'

/-- The text is one literal from end to end: between three quotes if it begins with three, else
between single ones and on one line. -/
def IsLiteral (s : List Char) : Prop :=
  if tripleQuote <+: s then Place.read 3 (.opening 0) s = .closed
  else Place.read 1 (.opening 0) s = .closed ∧ '\n' ∉ s ∧ '\r' ∉ s

def slashes (s : List Char) : Nat := (s.reverse.takeWhile (· = '\\')).length

/-- The text ends with `k` quotes, of which the first is not escaped. -/
def EndsWithQuotes (k : Nat) (s : List Char) : Prop :=
  ∃ before, s = before ++ List.replicate k '"' ∧ Even (slashes before)

/-- The text holds `n` quotes in a row, of which the first is not escaped. -/
def HoldsQuotes (n : Nat) (s : List Char) : Prop :=
  ∃ before behind, s = before ++ List.replicate n '"' ++ behind ∧ Even (slashes before)

/-! ## Ends of texts -/

theorem slashes_concat (s : List Char) (c : Char) :
    slashes (s ++ [c]) = if c = '\\' then slashes s + 1 else 0 := by
  rw [slashes, List.reverse_append, List.reverse_singleton, List.singleton_append,
    List.takeWhile_cons]
  by_cases hc : c = '\\' <;> simp [hc, slashes]

theorem slashes_of_getLast? {s : List Char} (h : '\\' ∉ s.getLast?) : slashes s = 0 := by
  induction s using List.reverseRecOn with
  | nil => rfl
  | append_singleton s c _ =>
    rw [slashes_concat, if_neg]
    rintro rfl
    exact h List.getLast?_concat

theorem endsWithQuotes_zero {s : List Char} : EndsWithQuotes 0 s ↔ Even (slashes s) := by
  simp [EndsWithQuotes]

theorem endsWithQuotes_concat_succ {s : List Char} {c : Char} {k : Nat} :
    EndsWithQuotes (k + 1) (s ++ [c]) ↔ c = '"' ∧ EndsWithQuotes k s := by
  constructor
  · rintro ⟨before, hs, heven⟩
    rw [List.replicate_succ', ← List.append_assoc] at hs
    obtain ⟨hs, hc⟩ := List.append_inj' hs rfl
    exact ⟨List.singleton_inj.mp hc, before, hs, heven⟩
  · rintro ⟨rfl, before, rfl, heven⟩
    exact ⟨before, by rw [List.replicate_succ', List.append_assoc], heven⟩

theorem holdsQuotes_concat {n : Nat} {s : List Char} {c : Char} :
    HoldsQuotes n (s ++ [c]) ↔ HoldsQuotes n s ∨ EndsWithQuotes n (s ++ [c]) := by
  constructor
  · rintro ⟨before, behind, hs, heven⟩
    cases behind using List.reverseRecOn with
    | nil => exact .inr ⟨before, by rw [hs, List.append_nil], heven⟩
    | append_singleton behind d =>
      rw [← List.append_assoc] at hs
      exact .inl ⟨before, behind, (List.append_inj' hs rfl).1, heven⟩
  · rintro (⟨before, behind, rfl, heven⟩ | ⟨before, hs, heven⟩)
    · exact ⟨before, behind ++ [c], by rw [← List.append_assoc], heven⟩
    · exact ⟨before, [], by rw [hs, List.append_nil], heven⟩

theorem not_holdsQuotes_concat {n : Nat} {s : List Char} {c : Char} (hn : 0 < n)
    (hold : ¬HoldsQuotes n s) (hsucc : ∀ k, ¬EndsWithQuotes (k + 1) (s ++ [c])) :
    ¬HoldsQuotes n (s ++ [c]) := by
  intro hholds
  rcases holdsQuotes_concat.mp hholds with hs | hend
  · exact hold hs
  · obtain ⟨m, rfl⟩ : ∃ m, n = m + 1 := ⟨n - 1, by omega⟩
    exact hsucc m hend

/-! ## Inside a literal -/

/-- What a place says of the text of a literal up to it. -/
def Place.Describes (n : Nat) (s : List Char) : Place → Prop
  | opening _ => False
  | inside quotes => quotes < n ∧ ¬HoldsQuotes n s ∧ ∀ k, EndsWithQuotes k s ↔ k ≤ quotes
  | escaped => ¬HoldsQuotes n s ∧ ∀ k, ¬EndsWithQuotes k s
  | closed => HoldsQuotes n s
  | broken => HoldsQuotes n s

namespace Place

variable {n : Nat}

theorem describes_inside_zero {s : List Char} {c : Char} (hn : 0 < n) (hold : ¬HoldsQuotes n s)
    (heven : Even (slashes (s ++ [c]))) (hsucc : ∀ k, ¬EndsWithQuotes (k + 1) (s ++ [c])) :
    (inside 0).Describes n (s ++ [c]) := by
  refine ⟨hn, not_holdsQuotes_concat hn hold hsucc, fun k => ?_⟩
  cases k with
  | zero => simp [endsWithQuotes_zero, heven]
  | succ k => simp [hsucc k]

theorem Describes.step_quote {s : List Char} {quotes : Nat}
    (h : (inside quotes).Describes n s) :
    ((inside quotes).step n '"').Describes n (s ++ ['"']) := by
  obtain ⟨hlt, hold, hends⟩ := h
  have hmore : ∀ k, EndsWithQuotes k (s ++ ['"']) ↔ k ≤ quotes + 1 := by
    intro k
    cases k with
    | zero => simp [endsWithQuotes_zero, slashes_concat]
    | succ k => simp [endsWithQuotes_concat_succ, hends]
  rw [Place.step, if_pos rfl]
  by_cases hlast : quotes + 1 = n
  · rw [if_pos hlast]
    exact holdsQuotes_concat.mpr (.inr ((hmore n).mpr hlast.ge))
  · rw [if_neg hlast]
    refine ⟨by omega, fun hholds => ?_, hmore⟩
    rcases holdsQuotes_concat.mp hholds with hs | hend
    · exact hold hs
    · have := (hmore n).mp hend
      omega

theorem Describes.step {place : Place} {s : List Char} (hn : 0 < n) (h : place.Describes n s)
    (c : Char) : (place.step n c).Describes n (s ++ [c]) := by
  have hlater : HoldsQuotes n s → HoldsQuotes n (s ++ [c]) := fun hs =>
    holdsQuotes_concat.mpr (.inl hs)
  cases place with
  | opening => exact h.elim
  | closed => exact hlater h
  | broken => exact hlater h
  | escaped =>
    -- The slashes at the end are odd in number, so one more of them is escaped like a quote.
    obtain ⟨hold, hnone⟩ := h
    have hodd : ¬Even (slashes s) := mt endsWithQuotes_zero.mpr (hnone 0)
    refine describes_inside_zero hn hold ?_ fun k hk => hnone k (endsWithQuotes_concat_succ.mp hk).2
    rw [slashes_concat]
    split
    · exact Nat.even_add_one.mpr hodd
    · exact Even.zero
  | inside quotes =>
    by_cases hquote : c = '"'
    · subst hquote
      exact h.step_quote
    · obtain ⟨-, hold, hends⟩ := h
      have heven : Even (slashes s) := endsWithQuotes_zero.mp ((hends 0).mpr (Nat.zero_le _))
      have hsucc : ∀ k, ¬EndsWithQuotes (k + 1) (s ++ [c]) := fun k hk =>
        hquote (endsWithQuotes_concat_succ.mp hk).1
      rw [Place.step, if_neg hquote]
      by_cases hslash : c = '\\'
      · rw [if_pos hslash]
        refine ⟨not_holdsQuotes_concat hn hold hsucc, fun k => ?_⟩
        cases k with
        | zero =>
          rw [endsWithQuotes_zero, slashes_concat, if_pos hslash, Nat.even_add_one]
          exact not_not.mpr heven
        | succ k => exact hsucc k
      · rw [if_neg hslash]
        refine describes_inside_zero hn hold ?_ hsucc
        rw [slashes_concat, if_neg hslash]
        exact Even.zero

theorem read_concat (place : Place) (s : List Char) (c : Char) :
    read n place (s ++ [c]) = (read n place s).step n c := by
  rw [read, List.foldl_append]
  rfl

theorem read_append (place : Place) (s t : List Char) :
    read n place (s ++ t) = read n (read n place s) t := List.foldl_append

theorem describes_read (hn : 0 < n) (s : List Char) :
    (read n (inside 0) s).Describes n s := by
  induction s using List.reverseRecOn with
  | nil =>
    refine ⟨hn, ?_, fun k => ?_⟩
    · rintro ⟨before, behind, hs, -⟩
      have := congrArg List.length hs
      simp only [List.length_append, List.length_replicate, List.length_nil] at this
      omega
    · cases k with
      | zero => simp [endsWithQuotes_zero, slashes]
      | succ k => simp [EndsWithQuotes]
  | append_singleton s c ih =>
    rw [read_concat]
    exact ih.step hn c

/-! ## Closing a literal -/

/-- What has been closed or broken off is broken by any further character. -/
theorem read_past {place : Place} (hplace : place = closed ∨ place = broken) {s : List Char}
    (hs : s ≠ []) : read n place s = broken := by
  cases s with
  | nil => exact absurd rfl hs
  | cons c s =>
    have hfirst : place.step n c = broken := by rcases hplace with rfl | rfl <;> rfl
    have hrest : ∀ t, read n broken t = broken := fun t => by
      induction t with
      | nil => rfl
      | cons d t ih => exact ih
    rw [read, List.foldl_cons, hfirst]
    exact hrest s

theorem read_quotes_open {m quotes : Nat} (h : quotes + m < n) :
    read n (inside quotes) (List.replicate m '"') = inside (quotes + m) := by
  induction m with
  | zero => rfl
  | succ m ih =>
    rw [List.replicate_succ', read_concat, ih (by omega), step, if_pos rfl, if_neg (by omega)]
    rfl

theorem read_quotes (hn : 0 < n) : read n (inside 0) (List.replicate n '"') = closed := by
  obtain ⟨m, rfl⟩ : ∃ m, n = m + 1 := ⟨n - 1, by omega⟩
  rw [List.replicate_succ', read_concat, read_quotes_open (by omega), step, if_pos rfl,
    if_pos (by omega)]

theorem read_opening (hn : 0 < n) : read n (opening 0) (List.replicate n '"') = inside 0 := by
  have hpart : ∀ m < n, read n (opening 0) (List.replicate m '"') = opening m := by
    intro m hm
    induction m with
    | zero => rfl
    | succ m ih =>
      rw [List.replicate_succ', read_concat, ih (by omega), step, if_pos rfl, if_neg (by omega)]
  obtain ⟨m, rfl⟩ : ∃ m, n = m + 1 := ⟨n - 1, by omega⟩
  rw [List.replicate_succ', read_concat, hpart m (by omega), step, if_pos rfl, if_pos rfl]

/-- Where a text is set apart by a space if it ends with a quote, the quotes behind it close the
literal just if they do not come up in the text and no backslash at its end takes one along. -/
theorem read_closed_iff (hn : 0 < n) (s : List Char) :
    read n (inside 0)
        (s ++ (if s.getLast? = some '"' then [' '] else []) ++ List.replicate n '"') = closed ↔
      ¬HoldsQuotes n s ∧ Even (slashes s) := by
  obtain ⟨m, rfl⟩ : ∃ m, n = m + 1 := ⟨n - 1, by omega⟩
  have hdescribed := describes_read hn s
  rw [List.append_assoc, read_append, ← endsWithQuotes_zero]
  generalize read (m + 1) (inside 0) s = place at hdescribed ⊢
  cases place with
  | opening quotes => exact hdescribed.elim
  | inside quotes =>
    obtain ⟨-, hold, hends⟩ := hdescribed
    refine iff_of_true ?_ ⟨hold, (hends 0).mpr (Nat.zero_le _)⟩
    by_cases hlast : s.getLast? = some '"'
    · have hspace : read (m + 1) (inside quotes) [' '] = inside 0 := rfl
      rw [if_pos hlast, read_append, hspace, read_quotes hn]
    · have hzero : quotes = 0 := by
        by_contra hquotes
        obtain ⟨before, hs, -⟩ := (hends 1).mpr (Nat.one_le_iff_ne_zero.mpr hquotes)
        exact hlast (hs ▸ List.getLast?_concat)
      rw [if_neg hlast, List.nil_append, hzero, read_quotes hn]
  | escaped =>
    obtain ⟨-, hnone⟩ := hdescribed
    refine iff_of_false ?_ fun h => hnone 0 h.2
    have hlast : s.getLast? ≠ some '"' := by
      intro hlast
      refine hnone 0 (endsWithQuotes_zero.mpr ?_)
      rw [slashes_of_getLast? (by simp [hlast])]
      exact Even.zero
    -- One of the quotes is taken along, and the others are one too few.
    have hopen : read (m + 1) (inside 0) (List.replicate m '"') = inside (0 + m) :=
      read_quotes_open (by omega)
    have htaken : read (m + 1) escaped (List.replicate (m + 1) '"') = inside (0 + m) := hopen
    rw [if_neg hlast, List.nil_append, htaken]
    exact Place.noConfusion
  | closed =>
    refine iff_of_false ?_ fun h => h.1 hdescribed
    rw [read_past (.inl rfl) (by simp)]
    exact Place.noConfusion
  | broken =>
    refine iff_of_false ?_ fun h => h.1 hdescribed
    rw [read_past (.inr rfl) (by simp)]
    exact Place.noConfusion

end Place

/-! ## White space -/

theorem isBlank_quote : isBlank '"' = false := by decide

theorem isBlank_slash : isBlank '\\' = false := by decide

theorem Place.step_blank {n : Nat} {c : Char} (hc : isBlank c = true) (place : Place) :
    place.step n c = place.step n ' ' := by
  have hquote : c ≠ '"' := by
    rintro rfl
    exact absurd (hc.symm.trans isBlank_quote) (by decide)
  have hslash : c ≠ '\\' := by
    rintro rfl
    exact absurd (hc.symm.trans isBlank_slash) (by decide)
  cases place with
  | opening quotes => simp [Place.step, hquote]
  | inside quotes => simp [Place.step, hquote, hslash]
  | escaped => rfl
  | closed => rfl
  | broken => rfl

theorem Place.step_space_space {n : Nat} (place : Place) :
    (place.step n ' ').step n ' ' = place.step n ' ' := by
  cases place <;> rfl

/-- Texts with the same words are read alike: the reader does not see what white space stands
between them. -/
theorem Place.read_spaced {n : Nat} {ws : List (List Char)} {s t : List Char} (hs : Spaced ws s)
    (ht : Spaced ws t) (place : Place) : place.read n s = place.read n t := by
  have hjoined : ∀ {s}, Spaced ws s → place.read n s = place.read n (joinWith [' '] ws) :=
    fun hs => hs.foldl_eq (fun place c hc => step_blank hc place) step_space_space place
  rw [hjoined hs, hjoined ht]

end Enclosure
end SchemaModels

/-
What skipping depends on.

A pattern means a class by its name alone or, if it spans several segments, by its place below the
enclosing classes.  A lineage is skipped just if some class of it is skipped below those before it,
so it is enough to look at the last class once the enclosing ones are kept.  At a root the place
says nothing that the name does not, unless a pattern skips every root.
-/
import SchemaModels.Skip

namespace SchemaModels

/-- The pattern spans several segments and means a class or field for its place: for the enclosing
classes, or for the last of these together with the name. -/
def SkipPattern.meansPlace (skip : SkipPattern) (name : String) (parents : List String) : Bool :=
  skip.segments ≥ 2
    && (skip.pattern.isMatch (".".intercalate (lastNames skip.segments parents))
      || skip.pattern.isMatch
        (".".intercalate (lastNames (skip.segments - 1) parents ++ [name])))

theorem SkipPattern.isFor_iff {skip : SkipPattern} {name : String} {parents : List String} :
    skip.isFor name parents = true ↔
      skip.pattern.isMatch name = true ∨ skip.meansPlace name parents = true := by
  rw [isFor, meansPlace, Bool.or_eq_true]

/-- At a root the place is the empty text, for every name alike, or the name itself. -/
theorem SkipPattern.meansPlace_root {skip : SkipPattern} {name : String}
    (h : skip.meansPlace name [] = true) :
    skip.pattern.isMatch name = true ∨ ∀ other, skip.meansPlace other [] = true := by
  simp only [meansPlace, Bool.and_eq_true, Bool.or_eq_true, lastNames, List.drop_nil,
    List.nil_append] at h ⊢
  obtain ⟨hsegments, hroot | hname⟩ := h
  · exact Or.inr fun _ => ⟨hsegments, Or.inl hroot⟩
  · exact Or.inl (by simpa using hname)

namespace SkipRules

variable {rules : SkipRules}

theorem skips_iff {name : String} {parents : List String} :
    rules.skips name parents = true ↔ ∃ p ∈ rules.patterns,
      p.pattern.isMatch name = true ∨ p.meansPlace name parents = true := by
  simp only [skips, List.any_eq_true, SkipPattern.isFor_iff]

/-- A name that is kept somewhere is matched by no pattern. -/
theorem not_isMatch_of_kept {name : String} {parents : List String}
    (h : rules.skips name parents = false) :
    ∀ p ∈ rules.patterns, p.pattern.isMatch name ≠ true := by
  intro p hp hmatch
  rw [skips_iff.mpr ⟨p, hp, Or.inl hmatch⟩] at h
  exact absurd h (by decide)

/-- A name that is kept somewhere is kept at a root, if any root is. -/
theorem kept_root {name other : String} {parents : List String}
    (hname : rules.skips name parents = false) (hother : rules.skips other [] = false) :
    rules.skips name [] = false := by
  rw [Bool.eq_false_iff]
  intro hskip
  obtain ⟨p, hp, hmatch | hplace⟩ := skips_iff.mp hskip
  · exact not_isMatch_of_kept hname p hp hmatch
  · rcases SkipPattern.meansPlace_root hplace with hmatch | hall
    · exact not_isMatch_of_kept hname p hp hmatch
    · rw [skips_iff.mpr ⟨p, hp, Or.inr (hall other)⟩] at hother
      exact absurd hother (by decide)

theorem skipsAny_append (before names rest : List String) :
    rules.skipsAny before (names ++ rest) =
      (rules.skipsAny before names || rules.skipsAny (before ++ names) rest) := by
  induction names generalizing before with
  | nil => simp [skipsAny]
  | cons name names ih =>
    rw [List.cons_append, skipsAny, skipsAny, ih, Bool.or_assoc, List.append_assoc,
      List.singleton_append]

/-- A lineage is skipped if the enclosing classes are, or if its last class is below them. -/
theorem skipsLineage_concat (parents : List String) (name : String) :
    rules.skipsLineage (parents ++ [name]) =
      (rules.skipsLineage parents || rules.skips name parents) := by
  rw [skipsLineage, skipsAny_append, skipsLineage]
  simp only [List.nil_append, skipsAny, Bool.or_false]

/-- What is enclosed in a skipped class is skipped, however deep it is. -/
theorem skipsLineage_of_prefix {names names' : List String} (h : names <+: names')
    (hskip : rules.skipsLineage names = true) : rules.skipsLineage names' = true := by
  obtain ⟨rest, rfl⟩ := h
  rw [skipsLineage] at hskip ⊢
  rw [skipsAny_append, hskip, Bool.true_or]

/-- A lineage that is kept begins with a root that is kept. -/
theorem exists_kept_root {names : List String} (hne : names ≠ [])
    (h : rules.skipsLineage names = false) : ∃ root, rules.skips root [] = false := by
  cases names with
  | nil => exact absurd rfl hne
  | cons root rest =>
    rw [skipsLineage, skipsAny, Bool.or_eq_false_iff] at h
    exact ⟨root, h.1⟩

end SkipRules
end SchemaModels

/-
What has been reached, by kind.

A class is among the enumerations that were reached, or among the complex classes, just if it is of
that kind and nested in one of the roots.
-/
import SchemaModels.Proofs.Fold
import SchemaModels.Proofs.Forest.Walk
import SchemaModels.Reach

namespace SchemaModels
namespace Reach

/-- The classes of one kind that were reached: enumerations or complex classes. -/
def ofKind (reach : Reach) (enumerations : Bool) : List Nat :=
  if enumerations then reach.simple else reach.complex

theorem isSimple_iff {reach : Reach} {id : Nat} :
    reach.isSimple id = true ↔ id ∈ reach.ofKind true :=
  List.contains_iff_mem.trans (reach.mem_simpleSet id)

theorem isComplex_iff {reach : Reach} {id : Nat} :
    reach.isComplex id = true ↔ id ∈ reach.ofKind false :=
  List.contains_iff_mem.trans (reach.mem_complexSet id)

/-- There is a class, and it is of the given kind. -/
def IsOfKind (f : Forest) (enumeration : Bool) (id : Nat) : Prop :=
  ∃ c, f.get? id = some c ∧ c.isEnumeration = enumeration

/-- A class is appended to those of its kind, unless it is there. -/
theorem ofKind_add (f : Forest) (reach : Reach) (j : Nat) (enumeration : Bool) :
    (add f reach j).ofKind enumeration =
      if (f.get? j).map SchemaClass.isEnumeration = some enumeration ∧ j ∉ reach.ofKind enumeration
      then reach.ofKind enumeration ++ [j] else reach.ofKind enumeration := by
  unfold add
  cases hj : f.get? j with
  | none => simp
  | some c =>
    cases hkind : c.isEnumeration <;> cases enumeration <;>
      simp only [ofKind, hkind, Option.map_some, Option.some.injEq, List.contains_eq_mem,
        decide_eq_true_eq, reach.mem_simpleSet, reach.mem_complexSet, reduceCtorEq, false_and,
        true_and, if_false, if_true, Bool.false_eq_true] <;>
      split <;> simp_all

theorem isOfKind_iff {f : Forest} {enumeration : Bool} {id : Nat} :
    IsOfKind f enumeration id ↔
      (f.get? id).map SchemaClass.isEnumeration = some enumeration := by
  rw [IsOfKind, Option.map_eq_some_iff]

theorem mem_ofKind_add_iff {f : Forest} {reach : Reach} {j id : Nat} {enumeration : Bool} :
    id ∈ (add f reach j).ofKind enumeration ↔
      id ∈ reach.ofKind enumeration ∨ (j = id ∧ IsOfKind f enumeration id) := by
  rw [ofKind_add, isOfKind_iff]
  split
  case isTrue h =>
    rw [List.mem_append, List.mem_singleton]
    constructor
    · rintro (hin | rfl)
      · exact Or.inl hin
      · exact Or.inr ⟨rfl, h.1⟩
    · rintro (hin | ⟨rfl, -⟩)
      · exact Or.inl hin
      · exact Or.inr rfl
  case isFalse h =>
    refine ⟨Or.inl, ?_⟩
    rintro (hin | ⟨rfl, hkind⟩)
    · exact hin
    · by_contra hnot
      exact h ⟨hkind, hnot⟩

/-- After the walks from several roots, a class of a kind was reached just if it is nested in one of
them. -/
theorem mem_ofKind_foldl_addFrom_iff {f : Forest} {scopes : List (List Nat)} {id : Nat}
    {enumeration : Bool} :
    id ∈ (scopes.foldl (addFrom f) {}).ofKind enumeration ↔
      IsOfKind f enumeration id ∧ ∃ roots ∈ scopes, f.Reaches roots id := by
  have hwalk : ∀ (reach : Reach) (roots : List Nat),
      id ∈ (addFrom f reach roots).ofKind enumeration ↔ id ∈ reach.ofKind enumeration ∨
        ∃ j ∈ f.walk roots, j = id ∧ IsOfKind f enumeration id := fun reach roots =>
    foldl_iff (f := add f) (P := fun reach => id ∈ reach.ofKind enumeration)
      (fun _ _ => mem_ofKind_add_iff) (f.walk roots) reach
  have hall := foldl_iff (f := addFrom f) (P := fun reach => id ∈ reach.ofKind enumeration)
    hwalk scopes {}
  have hempty : id ∉ ({} : Reach).ofKind enumeration := by cases enumeration <;> simp [ofKind]
  rw [hall, or_iff_right hempty]
  constructor
  · rintro ⟨roots, hroots, j, hj, rfl, hkind⟩
    exact ⟨hkind, roots, hroots, (Forest.mem_walk_iff.mp hj).2⟩
  · rintro ⟨⟨c, hc, hkind⟩, roots, hroots, hreach⟩
    have hsize : id < f.size := Forest.lt_size_of_get? hc
    exact ⟨roots, hroots, id, Forest.mem_walk_iff.mpr ⟨hsize, hreach⟩, rfl, c, hc, hkind⟩

end Reach
end SchemaModels

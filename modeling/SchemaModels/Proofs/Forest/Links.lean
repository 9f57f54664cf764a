/-
The links of a forest lead back: the parent of a nested class is the class in which it is nested.

`Linked` says so of a forest.  Every forest that is laid out from trees is linked, and merging
attributes changes no link.  In a linked forest the lineage of a nested class is the lineage of the
class around it with one more class at the end, so there is one way up from every class.
-/
import SchemaModels.Bundle
import SchemaModels.Merge

namespace SchemaModels

/-- Every class that is nested in another is there and has it as its parent. -/
def Forest.Linked (f : Forest) : Prop :=
  ∀ (i : Nat) (c : SchemaClass), f.get? i = some c →
    ∀ j ∈ c.inner, ∃ d, f.get? j = some d ∧ d.parent = some i

/-! ## Trees that are laid out -/

namespace ClassTree

/-- The root of each tree stands where `rootIds` says, under the common parent. -/
theorem layOutAll_root (parent : Option Nat) (next : Nat) :
    ∀ (trees : List ClassTree) (j : Nat), j ∈ rootIds next trees →
      ∃ d, (layOutAll parent next trees)[j - next]? = some d ∧ d.parent = parent
  | node decl inner :: rest, j, hj => by
    rw [rootIds, List.mem_cons] at hj
    rcases hj with rfl | hj
    · exact ⟨{ decl with inner := rootIds (j + 1) inner, parent := parent },
        by simp [layOutAll, layOut], rfl⟩
    · obtain ⟨d, hd, hp⟩ := layOutAll_root parent (next + size (node decl inner)) rest j hj
      have hle := (rootIds_bounds hj).1
      refine ⟨d, ?_, hp⟩
      rw [layOutAll, List.getElem?_append_right (by rw [length_layOut]; omega), length_layOut,
        Nat.sub_sub]
      exact hd

mutual

theorem layOut_linked (parent : Option Nat) (next : Nat) :
    ∀ (tree : ClassTree) (i : Nat) (c : SchemaClass), (layOut parent next tree)[i]? = some c →
      ∀ j ∈ c.inner,
        ∃ d, (layOut parent next tree)[j - next]? = some d ∧ d.parent = some (next + i)
  | node decl inner, 0, c, h, j, hj => by
    simp only [layOut, List.getElem?_cons_zero, Option.some.injEq] at h
    subst h
    obtain ⟨d, hd, hp⟩ := layOutAll_root (some next) (next + 1) inner j hj
    have hle := (rootIds_bounds hj).1
    refine ⟨d, ?_, hp⟩
    rw [layOut, show j - next = j - (next + 1) + 1 by omega, List.getElem?_cons_succ]
    exact hd
  | node decl inner, i + 1, c, h, j, hj => by
    simp only [layOut, List.getElem?_cons_succ] at h
    obtain ⟨d, hd, hp⟩ := layOutAll_linked (some next) (next + 1) inner i c h j hj
    have hlt := (layOutAll_inner (some next) (next + 1) inner i c h j hj).1
    refine ⟨d, ?_, by rw [hp]; congr 1; omega⟩
    rw [layOut, show j - next = j - (next + 1) + 1 by omega, List.getElem?_cons_succ]
    exact hd

theorem layOutAll_linked (parent : Option Nat) (next : Nat) :
    ∀ (trees : List ClassTree) (i : Nat) (c : SchemaClass),
      (layOutAll parent next trees)[i]? = some c → ∀ j ∈ c.inner,
        ∃ d, (layOutAll parent next trees)[j - next]? = some d ∧ d.parent = some (next + i)
  | [], i, c, h, j, hj => by simp [layOutAll] at h
  | tree :: rest, i, c, h, j, hj => by
    rw [layOutAll, List.getElem?_append] at h
    split at h
    · obtain ⟨d, hd, hp⟩ := layOut_linked parent next tree i c h j hj
      refine ⟨d, ?_, hp⟩
      rw [layOutAll, List.getElem?_append_left (List.getElem?_eq_some_iff.mp hd).1]
      exact hd
    · rename_i hi
      rw [length_layOut] at h hi
      obtain ⟨d, hd, hp⟩ :=
        layOutAll_linked parent (next + tree.size) rest (i - tree.size) c h j hj
      have hlt := (layOutAll_inner parent (next + tree.size) rest (i - tree.size) c h j hj).1
      refine ⟨d, ?_, by rw [hp]; congr 1; omega⟩
      rw [layOutAll, List.getElem?_append_right (by rw [length_layOut]; omega), length_layOut,
        Nat.sub_sub]
      exact hd

end

end ClassTree

namespace Forest

theorem linked_ofTrees (trees : List ClassTree) : (ofTrees trees).Linked := by
  intro i c h j hj
  have hl : (ClassTree.layOutAll none 0 trees)[i]? = some c := by simpa [get?, ofTrees] using h
  obtain ⟨d, hd, hp⟩ := ClassTree.layOutAll_linked none 0 trees i c hl j hj
  exact ⟨d, by simpa [get?, ofTrees] using hd, by simpa using hp⟩

theorem get?_mapAttributes (f : Forest) (g : SchemaClass → List Attribute) (i : Nat) :
    (f.mapAttributes g).get? i = (f.get? i).map fun c => { c with attributes := g c } := by
  simp [get?, mapAttributes]

theorem Linked.mapAttributes {f : Forest} (hf : f.Linked) (g : SchemaClass → List Attribute) :
    (f.mapAttributes g).Linked := by
  intro i c h j hj
  rw [get?_mapAttributes, Option.map_eq_some_iff] at h
  obtain ⟨b, hb, rfl⟩ := h
  obtain ⟨d, hd, hp⟩ := hf i b hb j hj
  exact ⟨{ d with attributes := g d }, by rw [get?_mapAttributes, hd]; rfl, hp⟩

/-! ## Lineages -/

theorem lineage_of_parent {f : Forest} {i j : Nat} {d : SchemaClass} (hd : f.get? j = some d)
    (hp : d.parent = some i) : f.lineage j = f.lineage i ++ [j] := by
  unfold get? at hd
  rw [lineage]
  split
  · rename_i hnone
    rw [hd] at hnone
    exact absurd hnone (by simp)
  · rename_i c hc
    obtain rfl : d = c := Option.some.inj (hd.symm.trans hc)
    split
    · rename_i hnone
      rw [hp] at hnone
      exact absurd hnone (by simp)
    · rename_i p hp'
      obtain rfl : i = p := Option.some.inj (hp.symm.trans hp')
      rfl

theorem singleton_suffix_lineage (f : Forest) (id : Nat) : [id] <:+ f.lineage id := by
  rw [lineage]
  split
  · exact List.suffix_refl _
  · split
    · exact List.suffix_refl _
    · exact List.suffix_append _ _

/-- One step down a linked forest takes a piece of a lineage to a piece of a lineage. -/
theorem Linked.suffix_lineage_inner {f : Forest} (hf : f.Linked) {id j : Nat} {c : SchemaClass}
    {way : List Nat} (hc : f.get? id = some c) (hj : j ∈ c.inner) (h : way <:+ f.lineage id) :
    way ++ [j] <:+ f.lineage j := by
  obtain ⟨d, hd, hp⟩ := hf id c hc j hj
  obtain ⟨above, habove⟩ := h
  rw [lineage_of_parent hd hp, ← habove, List.append_assoc]
  exact List.suffix_append above (way ++ [j])

end Forest

/-! ## Models -/

theorem exists_ok_of_bind {ε α β : Type} {x : Except ε α} {k : α → Except ε β} {b : β}
    (h : (x >>= k) = .ok b) : ∃ a, x = .ok a ∧ k a = .ok b := by
  cases x with
  | error e => exact absurd h (by simp [bind, Except.bind])
  | ok a => exact ⟨a, rfl, h⟩

/-- The forest of a model is laid out from the trees of its bundle, whatever the groups are. -/
theorem Bundle.model_forest {b : Bundle} {m : Model} (h : b.model = .ok m) :
    m.forest = Forest.ofTrees b.classes := by
  unfold Bundle.model at h
  obtain ⟨forest, hforest, h⟩ := exists_ok_of_bind h
  have heq : forest = Forest.ofTrees b.classes := Forest.eq_ofTrees_of_flatten hforest
  rw [← heq]
  split at h <;> split at h <;>
    (obtain ⟨modules, -, h⟩ := exists_ok_of_bind h
     obtain ⟨packages, -, h⟩ := exists_ok_of_bind h
     exact congrArg Model.forest (Except.ok.inj h).symm)

/-- The model of a given bundle and what is checked of it, both found by evaluation. -/
theorem Bundle.exists_model (b : Bundle) (check : Model → Bool)
    (h : b.model.toOption.any check = true) : ∃ m, b.model = .ok m ∧ check m = true := by
  cases hm : b.model with
  | error e =>
    rw [hm] at h
    exact absurd h (by simp [Except.toOption])
  | ok m =>
    rw [hm] at h
    exact ⟨m, rfl, h⟩

theorem Bundle.linked_of_model {b : Bundle} {m : Model} (h : b.model = .ok m) :
    m.forest.Linked := by
  rw [model_forest h]
  exact Forest.linked_ofTrees b.classes

end SchemaModels

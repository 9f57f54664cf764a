/-
A forest that is laid out from trees holds these trees.

The classes stand in pre-order.  A class is either the root of one of the trees or nested in the
class that it names as its parent, and the positions of the roots and of the classes nested in one
class go up in order of declaration.  So the inner lists say everything about the shape: `readBack`
follows them down from a class, and from the roots it gives the trees that the forest was laid out
from.
-/
import SchemaModels.Proofs.Forest.Links

namespace SchemaModels
namespace ClassTree

mutual

def decls : ClassTree → List ClassDecl
  | node decl inner => decl :: declsAll inner

def declsAll : List ClassTree → List ClassDecl
  | [] => []
  | tree :: rest => decls tree ++ declsAll rest

end

mutual

theorem map_toClassDecl_layOut (parent : Option Nat) (next : Nat) :
    ∀ tree, (layOut parent next tree).map (·.toClassDecl) = decls tree
  | node decl inner => by
    rw [layOut, List.map_cons, map_toClassDecl_layOutAll (some next) (next + 1) inner, decls]

theorem map_toClassDecl_layOutAll (parent : Option Nat) (next : Nat) :
    ∀ trees, (layOutAll parent next trees).map (·.toClassDecl) = declsAll trees
  | [] => rfl
  | tree :: rest => by
    rw [layOutAll, List.map_append, map_toClassDecl_layOut parent next tree,
      map_toClassDecl_layOutAll parent (next + tree.size) rest, declsAll]

end

/-! ## Roots and nested classes -/

theorem rootIds_pairwise (next : Nat) :
    ∀ trees : List ClassTree, (rootIds next trees).Pairwise (· < ·)
  | [] => List.Pairwise.nil
  | node decl inner :: rest => by
    rw [rootIds, List.pairwise_cons]
    refine ⟨fun j hj => ?_, rootIds_pairwise _ rest⟩
    have hpos : 0 < size (node decl inner) := by simp only [size]; omega
    have hle := (rootIds_bounds hj).1
    omega

mutual

theorem layOut_inner_pairwise (parent : Option Nat) (next : Nat) :
    ∀ tree, ∀ c ∈ layOut parent next tree, c.inner.Pairwise (· < ·)
  | node decl inner, c, hc => by
    rw [layOut, List.mem_cons] at hc
    rcases hc with rfl | hc
    · exact rootIds_pairwise (next + 1) inner
    · exact layOutAll_inner_pairwise (some next) (next + 1) inner c hc

theorem layOutAll_inner_pairwise (parent : Option Nat) (next : Nat) :
    ∀ trees, ∀ c ∈ layOutAll parent next trees, c.inner.Pairwise (· < ·)
  | [], c, hc => absurd hc List.not_mem_nil
  | tree :: rest, c, hc => by
    rw [layOutAll, List.mem_append] at hc
    rcases hc with hc | hc
    · exact layOut_inner_pairwise parent next tree c hc
    · exact layOutAll_inner_pairwise parent (next + tree.size) rest c hc

end

mutual

/-- A class of a tree is its root, or it is nested in the class that it names as its parent. -/
theorem layOut_nested (parent : Option Nat) (next : Nat) :
    ∀ (tree : ClassTree) (i : Nat) (c : SchemaClass), (layOut parent next tree)[i]? = some c →
      (i = 0 ∧ c.parent = parent) ∨ ∃ k d, (layOut parent next tree)[k]? = some d ∧
        c.parent = some (next + k) ∧ next + i ∈ d.inner
  | node decl inner, 0, c, h => by
    simp only [layOut, List.getElem?_cons_zero, Option.some.injEq] at h
    subst h
    exact Or.inl ⟨rfl, rfl⟩
  | node decl inner, i + 1, c, h => by
    simp only [layOut, List.getElem?_cons_succ] at h
    have hi : next + (i + 1) = next + 1 + i := by omega
    rcases layOutAll_nested (some next) (next + 1) inner i c h with
      ⟨hroot, hp⟩ | ⟨k, d, hd, hp, hj⟩
    · refine Or.inr ⟨0, { decl with inner := rootIds (next + 1) inner, parent := parent }, ?_, hp,
        ?_⟩
      · rw [layOut, List.getElem?_cons_zero]
      · rw [hi]
        exact hroot
    · refine Or.inr ⟨k + 1, d, ?_, ?_, hi ▸ hj⟩
      · rw [layOut, List.getElem?_cons_succ]
        exact hd
      · rw [hp]
        congr 1
        omega

/-- A class of several trees is the root of one, or it is nested in the class that it names as its
parent. -/
theorem layOutAll_nested (parent : Option Nat) (next : Nat) :
    ∀ (trees : List ClassTree) (i : Nat) (c : SchemaClass),
      (layOutAll parent next trees)[i]? = some c →
      (next + i ∈ rootIds next trees ∧ c.parent = parent) ∨
        ∃ k d, (layOutAll parent next trees)[k]? = some d ∧ c.parent = some (next + k) ∧
          next + i ∈ d.inner
  | [], i, c, h => by simp [layOutAll] at h
  | tree :: rest, i, c, h => by
    rw [layOutAll, List.getElem?_append] at h
    split at h
    · rcases layOut_nested parent next tree i c h with ⟨rfl, hp⟩ | ⟨k, d, hd, hp, hj⟩
      · exact Or.inl ⟨List.mem_cons_self, hp⟩
      · refine Or.inr ⟨k, d, ?_, hp, hj⟩
        rw [layOutAll, List.getElem?_append_left (List.getElem?_eq_some_iff.mp hd).1]
        exact hd
    · rename_i hi
      rw [length_layOut] at h hi
      have hpos : next + tree.size + (i - tree.size) = next + i := by omega
      rcases layOutAll_nested parent (next + tree.size) rest (i - tree.size) c h with
        ⟨hroot, hp⟩ | ⟨k, d, hd, hp, hj⟩
      · exact Or.inl ⟨List.mem_cons_of_mem next (hpos ▸ hroot), hp⟩
      · refine Or.inr ⟨tree.size + k, d, ?_, ?_, hpos ▸ hj⟩
        · rw [layOutAll, List.getElem?_append_right (by rw [length_layOut]; omega), length_layOut,
            Nat.add_sub_cancel_left]
          exact hd
        · rw [hp, Nat.add_assoc]

end

end ClassTree

namespace Forest

/-! ## Reading the trees back -/

/-- The tree that is read off a class and, down its inner list, off the classes nested in it; none
if there is no such class. -/
def readBack (f : Forest) (id : Nat) : List ClassTree :=
  match _h : f.classes[id]? with
  | none => []
  | some c => [.node c.toClassDecl (c.inner.attach.flatMap fun ⟨j, _⟩ => f.readBack j)]
termination_by f.classes.size - id
decreasing_by
  have := f.inner_after id c _h j (by assumption)
  omega

theorem readBack_eq {f : Forest} {id : Nat} {c : SchemaClass} (hc : f.get? id = some c) :
    f.readBack id = [.node c.toClassDecl (c.inner.flatMap f.readBack)] := by
  unfold get? at hc
  rw [readBack]
  split
  · rename_i hnone
    rw [hc] at hnone
    exact absurd hnone (by simp)
  · rename_i d hd
    obtain rfl : c = d := Option.some.inj (hc.symm.trans hd)
    simp

/-- The classes stand in a forest one behind the other, from a position on. -/
def StandAt (f : Forest) (next : Nat) (classes : List SchemaClass) : Prop :=
  ∀ i c, classes[i]? = some c → f.get? (next + i) = some c

theorem StandAt.append {f : Forest} {next : Nat} {classes more : List SchemaClass}
    (h : f.StandAt next (classes ++ more)) :
    f.StandAt next classes ∧ f.StandAt (next + classes.length) more := by
  refine ⟨fun i c hc => h i c ?_, fun i c hc => ?_⟩
  · rw [List.getElem?_append_left (List.getElem?_eq_some_iff.mp hc).1]
    exact hc
  · rw [Nat.add_assoc]
    refine h (classes.length + i) c ?_
    rw [List.getElem?_append_right (Nat.le_add_right _ _), Nat.add_sub_cancel_left]
    exact hc

theorem StandAt.cons {f : Forest} {next : Nat} {c : SchemaClass} {more : List SchemaClass}
    (h : f.StandAt next (c :: more)) : f.get? next = some c ∧ f.StandAt (next + 1) more := by
  have hsplit : f.StandAt next ([c] ++ more) := h
  obtain ⟨hfirst, hrest⟩ := hsplit.append
  exact ⟨hfirst 0 c rfl, hrest⟩

mutual

theorem readBack_layOut {f : Forest} (parent : Option Nat) (next : Nat) :
    ∀ tree : ClassTree, f.StandAt next (ClassTree.layOut parent next tree) →
      f.readBack next = [tree]
  | .node decl inner, h => by
    obtain ⟨hroot, hbelow⟩ := h.cons
    rw [readBack_eq hroot, readBack_layOutAll (some next) (next + 1) inner hbelow]

theorem readBack_layOutAll {f : Forest} (parent : Option Nat) (next : Nat) :
    ∀ trees : List ClassTree, f.StandAt next (ClassTree.layOutAll parent next trees) →
      (ClassTree.rootIds next trees).flatMap f.readBack = trees
  | [], _ => rfl
  | tree :: rest, h => by
    obtain ⟨hfirst, hrest⟩ := StandAt.append h
    rw [ClassTree.length_layOut] at hrest
    rw [ClassTree.rootIds, List.flatMap_cons, readBack_layOut parent next tree hfirst,
      readBack_layOutAll parent (next + tree.size) rest hrest]
    rfl

end

/-! ## The forest of trees -/

theorem get?_ofTrees (trees : List ClassTree) (id : Nat) :
    (ofTrees trees).get? id = (ClassTree.layOutAll none 0 trees)[id]? := by
  simp [get?, ofTrees]

theorem mem_roots_ofTrees (trees : List ClassTree) {id : Nat} :
    id ∈ (ofTrees trees).roots ↔ ∃ c, (ofTrees trees).get? id = some c ∧ c.parent = none := by
  rw [get?_ofTrees]
  constructor
  · intro hroot
    obtain ⟨d, hd, hp⟩ := ClassTree.layOutAll_root none 0 trees id hroot
    exact ⟨d, by simpa using hd, hp⟩
  · rintro ⟨c, hc, hp⟩
    rcases ClassTree.layOutAll_nested none 0 trees id c hc with ⟨hroot, -⟩ | ⟨k, -, -, hparent, -⟩
    · rwa [Nat.zero_add] at hroot
    · rw [hp] at hparent
      exact absurd hparent (by simp)

theorem nodup_roots_ofTrees (trees : List ClassTree) : (ofTrees trees).roots.Nodup :=
  (ClassTree.rootIds_pairwise 0 trees).imp Nat.ne_of_lt

theorem standAt_ofTrees (trees : List ClassTree) :
    (ofTrees trees).StandAt 0 (ClassTree.layOutAll none 0 trees) := by
  intro i c hc
  rw [get?_ofTrees, Nat.zero_add]
  exact hc

theorem readBack_roots (trees : List ClassTree) :
    (ofTrees trees).roots.flatMap (ofTrees trees).readBack = trees :=
  readBack_layOutAll none 0 trees (standAt_ofTrees trees)

/-- The parent of a class is there, and the class is in its inner list. -/
theorem nested_ofTrees (trees : List ClassTree) {id p : Nat} {c : SchemaClass}
    (hc : (ofTrees trees).get? id = some c) (hp : c.parent = some p) :
    ∃ d, (ofTrees trees).get? p = some d ∧ id ∈ d.inner := by
  rw [get?_ofTrees] at hc
  rcases ClassTree.layOutAll_nested none 0 trees id c hc with ⟨-, hnone⟩ | ⟨k, d, hd, hk, hin⟩
  · rw [hp] at hnone
    exact absurd hnone (by simp)
  · obtain rfl : p = 0 + k := Option.some.inj (hp.symm.trans hk)
    refine ⟨d, ?_, ?_⟩
    · rw [get?_ofTrees, Nat.zero_add]
      exact hd
    · rw [Nat.zero_add] at hin
      exact hin

theorem inner_pairwise_ofTrees (trees : List ClassTree) {id : Nat} {c : SchemaClass}
    (hc : (ofTrees trees).get? id = some c) : c.inner.Pairwise (· < ·) := by
  rw [get?_ofTrees] at hc
  exact ClassTree.layOutAll_inner_pairwise none 0 trees c (List.mem_of_getElem? hc)

/-- The index has every class under its qualified name. -/
theorem mem_byQname_ofTrees (trees : List ClassTree) {qname : String} {id : Nat} :
    (qname, id) ∈ (ofTrees trees).byQname ↔
      ∃ c, (ofTrees trees).get? id = some c ∧ c.qname = qname := by
  rw [get?_ofTrees, ofTrees, indexFrom, List.mem_reverse, List.mem_zipIdx_iff_getElem?,
    List.getElem?_map, Option.map_eq_some_iff]

theorem map_fst_byQname_ofTrees (trees : List ClassTree) :
    (ofTrees trees).byQname.map Prod.fst = (ofTrees trees).qnames.reverse := by
  simp [ofTrees, indexFrom, qnames]

theorem map_toClassDecl_ofTrees (trees : List ClassTree) :
    (ofTrees trees).classes.toList.map (·.toClassDecl) = ClassTree.declsAll trees :=
  ClassTree.map_toClassDecl_layOutAll none 0 trees

end Forest
end SchemaModels

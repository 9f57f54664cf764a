/-
The forest of all classes.

Nested classes are laid out in one array, each before the classes nested in it, and addressed by
their position, a number.  Beside the array stand an index by qualified name and the list of the
classes that are nested in no other.  The links in both directions agree with that order: a nested class stands
after its parent.  That is what makes a walk down the links, and a walk up to the root, come to an
end.
-/
import SchemaModels.Nesting
import SchemaModels.Schema.Class

namespace SchemaModels

structure SchemaClass extends ClassDecl where
  /-- The classes nested in this one, in order of declaration. -/
  inner : List Nat
  /-- The class in which this one is nested. -/
  parent : Option Nat
deriving Repr

def SchemaClass.isEnumeration (c : SchemaClass) : Bool := c.kind == .enumeration

def SchemaClass.isComplex (c : SchemaClass) : Bool := c.kind == .complex

theorem SchemaClass.isComplex_eq (c : SchemaClass) : c.isComplex = !c.isEnumeration := by
  cases hkind : c.kind <;> simp [isComplex, isEnumeration, hkind]

/-- Classes that are filed one behind the other, and what is kept beside them to find them. -/
@[ext]
structure Arena where
  classes : Array SchemaClass := #[]
  /-- The position of every class by its qualified name, the last class first. -/
  byQname : List (String × Nat) := []
  /-- The positions of the classes that are nested in no other, in order. -/
  roots : List Nat := []

structure Forest extends Arena where
  /-- Nested classes stand after the class they are nested in. -/
  inner_after : ∀ (i : Nat) (c : SchemaClass), classes[i]? = some c →
    ∀ j ∈ c.inner, i < j ∧ j < classes.size
  /-- Enclosing classes stand before the class they enclose. -/
  parent_before : ∀ (i : Nat) (c : SchemaClass), classes[i]? = some c → ∀ p ∈ c.parent, p < i

/-! ## Laying out trees -/

namespace ClassTree

mutual

def size : ClassTree → Nat
  | node _ inner => 1 + sizeAll inner

def sizeAll : List ClassTree → Nat
  | [] => 0
  | tree :: rest => size tree + sizeAll rest

end

/-- The positions of the roots of trees that are laid out from `next` on. -/
def rootIds (next : Nat) : List ClassTree → List Nat
  | [] => []
  | tree :: rest => next :: rootIds (next + tree.size) rest

mutual

/-- The classes of a tree in pre-order, laid out from `next` on under `parent`. -/
def layOut (parent : Option Nat) (next : Nat) : ClassTree → List SchemaClass
  | node decl inner =>
    { decl with inner := rootIds (next + 1) inner, parent := parent }
      :: layOutAll (some next) (next + 1) inner

def layOutAll (parent : Option Nat) (next : Nat) : List ClassTree → List SchemaClass
  | [] => []
  | tree :: rest => layOut parent next tree ++ layOutAll parent (next + tree.size) rest

end

mutual

theorem length_layOut (parent : Option Nat) (next : Nat) :
    ∀ tree, (layOut parent next tree).length = size tree
  | node decl inner => by
    simp [layOut, size, length_layOutAll (some next) (next + 1) inner, Nat.add_comm]

theorem length_layOutAll (parent : Option Nat) (next : Nat) :
    ∀ trees, (layOutAll parent next trees).length = sizeAll trees
  | [] => rfl
  | tree :: rest => by
    simp [layOutAll, sizeAll, length_layOut parent next tree,
      length_layOutAll parent (next + tree.size) rest]

end

theorem rootIds_bounds {next : Nat} : ∀ {trees : List ClassTree} {j : Nat},
    j ∈ rootIds next trees → next ≤ j ∧ j < next + sizeAll trees
  | node decl inner :: rest, j, h => by
    rw [rootIds, List.mem_cons] at h
    have hs : 0 < size (node decl inner) := by simp only [size]; omega
    rcases h with rfl | h
    · simp only [sizeAll]; omega
    · have := rootIds_bounds h
      simp only [sizeAll]; omega

mutual

theorem layOut_inner (parent : Option Nat) (next : Nat) :
    ∀ (tree : ClassTree) (i : Nat) (c : SchemaClass), (layOut parent next tree)[i]? = some c →
      ∀ j ∈ c.inner, next + i < j ∧ j < next + size tree
  | node decl inner, 0, c, h, j, hj => by
    simp only [layOut, List.getElem?_cons_zero, Option.some.injEq] at h
    subst h
    have := rootIds_bounds hj
    simp only [size]; omega
  | node decl inner, i + 1, c, h, j, hj => by
    simp only [layOut, List.getElem?_cons_succ] at h
    have := layOutAll_inner (some next) (next + 1) inner i c h j hj
    simp only [size]; omega

theorem layOutAll_inner (parent : Option Nat) (next : Nat) :
    ∀ (trees : List ClassTree) (i : Nat) (c : SchemaClass),
      (layOutAll parent next trees)[i]? = some c →
        ∀ j ∈ c.inner, next + i < j ∧ j < next + sizeAll trees
  | [], i, c, h, j, hj => by simp [layOutAll] at h
  | tree :: rest, i, c, h, j, hj => by
    rw [layOutAll, List.getElem?_append] at h
    split at h
    · have := layOut_inner parent next tree i c h j hj
      simp only [sizeAll]; omega
    · rename_i hi
      rw [length_layOut] at h hi
      have := layOutAll_inner parent (next + tree.size) rest (i - tree.size) c h j hj
      simp only [sizeAll]; omega

end

mutual

theorem layOut_parent (parent : Option Nat) (next : Nat) (hp : ∀ p ∈ parent, p < next) :
    ∀ (tree : ClassTree) (i : Nat) (c : SchemaClass), (layOut parent next tree)[i]? = some c →
      ∀ p ∈ c.parent, p < next + i
  | node decl inner, 0, c, h, p, hc => by
    simp only [layOut, List.getElem?_cons_zero, Option.some.injEq] at h
    subst h
    exact hp p hc
  | node decl inner, i + 1, c, h, p, hc => by
    simp only [layOut, List.getElem?_cons_succ] at h
    have := layOutAll_parent (some next) (next + 1) (by simp) inner i c h p hc
    omega

theorem layOutAll_parent (parent : Option Nat) (next : Nat)
    (hp : ∀ p ∈ parent, p < next) :
    ∀ (trees : List ClassTree) (i : Nat) (c : SchemaClass),
      (layOutAll parent next trees)[i]? = some c → ∀ p ∈ c.parent, p < next + i
  | [], i, c, h, p, hc => by simp [layOutAll] at h
  | tree :: rest, i, c, h, p, hc => by
    rw [layOutAll, List.getElem?_append] at h
    split at h
    · exact layOut_parent parent next hp tree i c h p hc
    · rename_i hi
      rw [length_layOut] at h hi
      have := layOutAll_parent parent (next + tree.size)
        (fun q hq => Nat.lt_add_right _ (hp q hq)) rest (i - tree.size) c h p hc
      omega

end

end ClassTree

namespace Forest

/-- The positions of classes that stand from `next` on by qualified name, the last class first. -/
def indexFrom (next : Nat) (classes : List SchemaClass) : List (String × Nat) :=
  ((classes.map (·.qname)).zipIdx next).reverse

def ofTrees (trees : List ClassTree) : Forest where
  classes := (ClassTree.layOutAll none 0 trees).toArray
  byQname := indexFrom 0 (ClassTree.layOutAll none 0 trees)
  roots := ClassTree.rootIds 0 trees
  inner_after := fun i c h j hj => by
    have := ClassTree.layOutAll_inner none 0 trees i c (by simpa using h) j hj
    simp [ClassTree.length_layOutAll]
    omega
  parent_before := fun i c h p hp => by
    have := ClassTree.layOutAll_parent none 0 (by simp) trees i c (by simpa using h) p hp
    omega

def mapAttributes (f : Forest) (g : SchemaClass → List Attribute) : Forest where
  toArena := { f.toArena with classes := f.classes.map fun c => { c with attributes := g c } }
  inner_after := fun i c h j hj => by
    rw [Array.getElem?_map, Option.map_eq_some_iff] at h
    obtain ⟨d, hd, rfl⟩ := h
    simpa using f.inner_after i d hd j hj
  parent_before := fun i c h p hp => by
    rw [Array.getElem?_map, Option.map_eq_some_iff] at h
    obtain ⟨d, hd, rfl⟩ := h
    exact f.parent_before i d hd p hp

/-! ## Looking classes up -/

def get? (f : Forest) (id : Nat) : Option SchemaClass := f.classes[id]?

def lookup (f : Forest) (qname : String) : Option Nat := f.byQname.lookup qname

def resolve (f : Forest) (qname : String) : Option SchemaClass :=
  (f.lookup qname).bind f.get?

def size (f : Forest) : Nat := f.classes.size

theorem lt_size_of_get? {f : Forest} {id : Nat} {c : SchemaClass} (h : f.get? id = some c) :
    id < f.size := (Array.getElem?_eq_some_iff.mp h).1

def ids (f : Forest) : List Nat := List.range f.size

def nameOf (f : Forest) (id : Nat) : String := ((f.get? id).map fun c => c.name).getD ""

def qnameOf (f : Forest) (id : Nat) : String := ((f.get? id).map fun c => c.qname).getD ""

/-! ## Walking the links -/

/-- The enclosing classes of a class, outermost first, and the class itself. -/
def lineage (f : Forest) (id : Nat) : List Nat :=
  match _h : f.classes[id]? with
  | none => [id]
  | some c =>
    match _hp : c.parent with
    | none => [id]
    | some p => f.lineage p ++ [id]
termination_by id
decreasing_by exact f.parent_before id c _h p _hp

def innerOf (f : Forest) (id : Nat) : List Nat := ((f.get? id).map (·.inner)).getD []

theorem mem_innerOf_iff {f : Forest} {id j : Nat} :
    j ∈ f.innerOf id ↔ ∃ c, f.get? id = some c ∧ j ∈ c.inner := by
  cases h : f.get? id <;> simp [innerOf, h]

theorem lt_of_mem_innerOf {f : Forest} {id j : Nat} (h : j ∈ f.innerOf id) :
    id < j ∧ j < f.size := by
  obtain ⟨c, hc, hj⟩ := mem_innerOf_iff.mp h
  exact f.inner_after id c hc j hj

def weight (f : Forest) (id : Nat) : Nat :=
  1 + total (fun j => f.weight j.val) (f.innerOf id).attach
termination_by f.size - id
decreasing_by
  have := lt_of_mem_innerOf j.property
  omega

theorem weight_eq (f : Forest) (id : Nat) :
    f.weight id = 1 + total f.weight (f.innerOf id) := by
  have hattach : (f.innerOf id).attach.map Subtype.val = f.innerOf id :=
    List.attach_map_subtype_val _
  rw [weight, ← total_map f.weight Subtype.val, hattach]

def classNesting (f : Forest) : Nesting Nat where
  inner := f.innerOf
  weight := f.weight
  lighter := fun id => by
    rw [f.weight_eq id]
    omega

def known (f : Forest) (ids : List Nat) : List Nat := ids.filter (· < f.size)

/-- The classes reached from several roots in pre-order, each once, where it is met first. -/
def walk (f : Forest) (roots : List Nat) : List Nat := f.classNesting.visit id (f.known roots)

end Forest

end SchemaModels

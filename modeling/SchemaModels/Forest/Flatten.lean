/-
Flattening the class trees of a bundle.

The trees wait on a stack, each with the position of the class around it.  The class on top is filed
behind all others and entered in the inner list of the class around it, and the trees nested in it
are pushed, the last one first, so that the first one is the next to be filed.  A qualified name that
is taken ends it.

Filing the trees of one class one after the other lays them out in pre-order and enters their roots
in the inner list of that class: `flattenFrom_push`.  So the forest is the one that `Forest.ofTrees`
lays out, unless a qualified name is repeated: `flatten_eq`.
-/
import SchemaModels.Error
import SchemaModels.Forest

namespace SchemaModels

/-! ## Repeated names -/

def firstRepeated (seen : List String) : List String → Option String
  | [] => none
  | name :: rest => if seen.contains name then some name else firstRepeated (name :: seen) rest

theorem firstRepeated_congr {seen other : List String} (h : ∀ name, name ∈ seen ↔ name ∈ other)
    (names : List String) : firstRepeated seen names = firstRepeated other names := by
  induction names generalizing seen other with
  | nil => rfl
  | cons name rest ih =>
    have hseen : seen.contains name = other.contains name := by
      rw [Bool.eq_iff_iff, List.contains_iff_mem, List.contains_iff_mem, h]
    have hrest : firstRepeated (name :: seen) rest = firstRepeated (name :: other) rest :=
      ih fun n => by rw [List.mem_cons, List.mem_cons, h]
    rw [firstRepeated, firstRepeated, hseen, hrest]

theorem firstRepeated_append (seen names more : List String) :
    firstRepeated seen (names ++ more) =
      (firstRepeated seen names).or (firstRepeated (seen ++ names) more) := by
  induction names generalizing seen with
  | nil => simp [firstRepeated]
  | cons name rest ih =>
    rw [List.cons_append, firstRepeated, firstRepeated]
    split
    · rfl
    · rw [ih]
      congr 1
      refine firstRepeated_congr (fun n => ?_) more
      rw [List.mem_append, List.mem_append, List.mem_cons, List.mem_cons, or_assoc, or_left_comm]

/-! ## The stack -/

namespace ClassTree

/-- Trees that are still to be filed, each with the position of the class around it, the top
first. -/
abbrev Pending := List (ClassTree × Option Nat)

def push (parent : Option Nat) (trees : List ClassTree) (pending : Pending) : Pending :=
  trees.foldr (fun tree pending => (tree, parent) :: pending) pending

def sizePending (pending : Pending) : Nat := sizeAll (pending.map Prod.fst)

theorem sizePending_push (parent : Option Nat) (trees : List ClassTree) (pending : Pending) :
    sizePending (push parent trees pending) = sizeAll trees + sizePending pending := by
  induction trees with
  | nil => simp [push, sizeAll]
  | cons tree rest ih =>
    rw [push, List.foldr_cons, sizePending, List.map_cons, sizeAll, sizeAll, Nat.add_assoc]
    exact congrArg _ ih

end ClassTree

namespace Forest

open ClassTree

/-! ## Filing -/

/-- File a class behind all others, unless its qualified name is taken. -/
def file? (arena : Arena) (decl : ClassDecl) (parent : Option Nat) : Option Arena :=
  if (arena.byQname.lookup decl.qname).isSome then none
  else some {
    classes := arena.classes.push { decl with inner := [], parent := parent }
    byQname := (decl.qname, arena.classes.size) :: arena.byQname
    roots := if parent.isNone then arena.roots ++ [arena.classes.size] else arena.roots }

def nest (classes : Array SchemaClass) (parent : Option Nat) (ids : List Nat) :
    Array SchemaClass :=
  match parent with
  | none => classes
  | some p => classes.modify p fun c => { c with inner := c.inner ++ ids }

/-- File all classes of the pending trees. -/
def flattenFrom (arena : Arena) (pending : Pending) : Except LoadError Arena :=
  match pending with
  | [] => .ok arena
  | (node decl inner, parent) :: rest =>
    match file? arena decl parent with
    | none => .error (.duplicateClass decl.qname)
    | some filed =>
      let id := arena.classes.size
      flattenFrom { filed with classes := nest filed.classes parent [id] }
        (push (some id) inner rest)
termination_by sizePending pending
decreasing_by
  rw [sizePending_push, sizePending, sizePending, List.map_cons, sizeAll, ClassTree.size]
  omega

/-! ## Inner lists -/

theorem size_nest (classes : Array SchemaClass) (parent : Option Nat) (ids : List Nat) :
    (nest classes parent ids).size = classes.size := by
  cases parent with
  | none => rfl
  | some p => exact Array.size_modify

theorem nest_nil (classes : Array SchemaClass) (parent : Option Nat) :
    nest classes parent [] = classes := by
  cases parent with
  | none => rfl
  | some p =>
    refine Array.ext (size_nest _ _ _) fun i hi hi' => ?_
    simp [nest, Array.getElem_modify]

theorem nest_nest (classes : Array SchemaClass) (parent : Option Nat) (ids more : List Nat) :
    nest (nest classes parent ids) parent more = nest classes parent (ids ++ more) := by
  cases parent with
  | none => rfl
  | some p =>
    refine Array.ext (by simp [size_nest]) fun i hi hi' => ?_
    by_cases hp : p = i
    · simp [nest, Array.getElem_modify, hp]
    · simp [nest, Array.getElem_modify, hp]

theorem nest_append {classes : Array SchemaClass} {parent : Option Nat}
    (hparent : ∀ p ∈ parent, p < classes.size) (more : Array SchemaClass) (ids : List Nat) :
    nest (classes ++ more) parent ids = nest classes parent ids ++ more := by
  cases parent with
  | none => rfl
  | some p =>
    have hp : p < classes.size := hparent p rfl
    refine Array.ext (by simp [size_nest]) fun i hi hi' => ?_
    by_cases hleft : i < classes.size
    · simp [nest, Array.getElem_modify, hleft]
    · have hne : p ≠ i := by omega
      simp [nest, Array.getElem_modify, Array.getElem_append, hleft, hne]

theorem nest_push (classes : Array SchemaClass) (c : SchemaClass) (ids : List Nat) :
    nest (classes.push c) (some classes.size) ids =
      classes.push { c with inner := c.inner ++ ids } := by
  refine Array.ext (by simp [size_nest]) fun i hi hi' => ?_
  by_cases hlast : classes.size = i
  · simp [nest, Array.getElem_modify, Array.getElem_push, ← hlast]
  · have hlt : i < classes.size := by
      rw [Array.size_push] at hi'
      omega
    simp [nest, Array.getElem_modify, Array.getElem_push, hlast, hlt]

/-! ## Laying trees out -/

def behind (classes : Array SchemaClass) (parent : Option Nat) (trees : List ClassTree) :
    Array SchemaClass :=
  nest classes parent (rootIds classes.size trees) ++
    (layOutAll parent classes.size trees).toArray

theorem behind_nil (classes : Array SchemaClass) (parent : Option Nat) :
    behind classes parent [] = classes := by
  rw [behind, rootIds, layOutAll, nest_nil, Array.append_empty]

theorem size_behind (classes : Array SchemaClass) (parent : Option Nat)
    (trees : List ClassTree) : (behind classes parent trees).size = classes.size + sizeAll trees := by
  simp [behind, size_nest, length_layOutAll]

/-- A tree and then those behind it. -/
theorem behind_cons {classes : Array SchemaClass} {parent : Option Nat}
    (hparent : ∀ p ∈ parent, p < classes.size) (tree : ClassTree) (rest : List ClassTree) :
    behind (behind classes parent [tree]) parent rest = behind classes parent (tree :: rest) := by
  have hsize : (behind classes parent [tree]).size = classes.size + tree.size := by
    rw [size_behind, sizeAll, sizeAll, Nat.add_zero]
  have hnest : ∀ p ∈ parent, p < (nest classes parent (rootIds classes.size [tree])).size := by
    rwa [size_nest]
  calc behind (behind classes parent [tree]) parent rest
      = nest (behind classes parent [tree]) parent (rootIds (classes.size + tree.size) rest) ++
          (layOutAll parent (classes.size + tree.size) rest).toArray := by
        rw [← hsize]
        rfl
    _ = nest classes parent (rootIds classes.size [tree] ++
            rootIds (classes.size + tree.size) rest) ++
          (layOutAll parent classes.size [tree]).toArray ++
          (layOutAll parent (classes.size + tree.size) rest).toArray := by
        rw [behind, nest_append hnest, nest_nest]
    _ = behind classes parent (tree :: rest) := by
        simp [behind, rootIds, layOutAll]

/-- A class and then those nested in it. -/
theorem behind_node {classes : Array SchemaClass} {parent : Option Nat}
    (hparent : ∀ p ∈ parent, p < classes.size) (decl : ClassDecl) (inner : List ClassTree) :
    behind (nest (classes.push { decl with inner := [], parent := parent }) parent [classes.size])
      (some classes.size) inner = behind classes parent [node decl inner] := by
  let filed := nest classes parent [classes.size]
  have hsize : filed.size = classes.size := size_nest _ _ _
  have hfiled : nest (classes.push { decl with inner := [], parent := parent }) parent
      [classes.size] = filed.push { decl with inner := [], parent := parent } := by
    rw [Array.push_eq_append, nest_append hparent, ← Array.push_eq_append]
  rw [hfiled, behind, Array.size_push, hsize]
  have hown := nest_push filed { decl with inner := [], parent := parent }
    (rootIds (classes.size + 1) inner)
  rw [hsize] at hown
  rw [hown]
  simp [behind, rootIds, layOutAll, layOut, filed]

/-- The arena with the trees laid out behind its classes, under a common parent. -/
def laidOut (arena : Arena) (parent : Option Nat) (trees : List ClassTree) : Arena where
  classes := behind arena.classes parent trees
  byQname := indexFrom arena.classes.size (layOutAll parent arena.classes.size trees) ++
    arena.byQname
  roots := if parent.isNone then arena.roots ++ rootIds arena.classes.size trees else arena.roots

theorem laidOut_nil (arena : Arena) (parent : Option Nat) : laidOut arena parent [] = arena :=
  Arena.ext (behind_nil _ _) rfl (by simp [laidOut, rootIds])

theorem laidOut_cons {arena : Arena} {parent : Option Nat}
    (hparent : ∀ p ∈ parent, p < arena.classes.size) (tree : ClassTree) (rest : List ClassTree) :
    laidOut (laidOut arena parent [tree]) parent rest = laidOut arena parent (tree :: rest) := by
  have hsize : (laidOut arena parent [tree]).classes.size = arena.classes.size + tree.size := by
    simp [laidOut, size_behind, sizeAll]
  refine Arena.ext (behind_cons hparent tree rest) ?_ ?_
  · rw [laidOut, hsize]
    simp [laidOut, indexFrom, layOutAll, List.zipIdx_append, length_layOut]
  · rw [laidOut, hsize]
    cases parent <;> simp [laidOut, rootIds]

theorem laidOut_node {arena filed : Arena} {decl : ClassDecl} {parent : Option Nat}
    (hparent : ∀ p ∈ parent, p < arena.classes.size) (hfiled : file? arena decl parent = some filed)
    (inner : List ClassTree) :
    laidOut { filed with classes := nest filed.classes parent [arena.classes.size] }
      (some arena.classes.size) inner = laidOut arena parent [node decl inner] := by
  unfold file? at hfiled
  split at hfiled
  · exact absurd hfiled (by simp)
  obtain rfl := Option.some.inj hfiled
  have hsize : (nest (arena.classes.push { decl with inner := [], parent := parent }) parent
      [arena.classes.size]).size = arena.classes.size + 1 := by
    rw [size_nest, Array.size_push]
  refine Arena.ext (behind_node hparent decl inner) ?_ ?_
  · rw [laidOut, hsize]
    simp [laidOut, indexFrom, layOutAll, layOut]
  · cases parent <;> simp [laidOut, rootIds]

/-! ## The loop -/

def takenNames (arena : Arena) : List String := arena.byQname.map Prod.fst

theorem file?_cases (arena : Arena) (decl : ClassDecl) (parent : Option Nat) :
    (file? arena decl parent = none ∧ decl.qname ∈ takenNames arena) ∨
      ∃ filed, file? arena decl parent = some filed ∧ decl.qname ∉ takenNames arena ∧
        filed.classes.size = arena.classes.size + 1 ∧
        takenNames filed = decl.qname :: takenNames arena := by
  have htaken : (arena.byQname.lookup decl.qname).isSome = true ↔
      decl.qname ∈ takenNames arena := by
    simp [takenNames, List.lookup_isSome_iff]
  unfold file?
  split
  case isTrue h => exact Or.inl ⟨rfl, htaken.mp h⟩
  case isFalse h =>
    exact Or.inr ⟨_, rfl, fun hin => h (htaken.mpr hin), Array.size_push _, rfl⟩

theorem mem_takenNames_laidOut {arena : Arena} {parent : Option Nat} {trees : List ClassTree}
    {name : String} :
    name ∈ takenNames (laidOut arena parent trees) ↔ name ∈ takenNames arena ++
      (layOutAll parent arena.classes.size trees).map (·.qname) := by
  have hindex : (indexFrom arena.classes.size (layOutAll parent arena.classes.size trees)).map
      Prod.fst = ((layOutAll parent arena.classes.size trees).map (·.qname)).reverse := by
    rw [indexFrom, List.map_reverse, List.zipIdx_map_fst]
  rw [takenNames, laidOut, List.map_append, hindex, List.mem_append, List.mem_append,
    List.mem_reverse, or_comm]
  rfl

mutual

theorem flattenFrom_tree {arena : Arena} {parent : Option Nat}
    (hparent : ∀ p ∈ parent, p < arena.classes.size) (rest : Pending) :
    ∀ tree : ClassTree, flattenFrom arena ((tree, parent) :: rest) =
      match firstRepeated (takenNames arena)
        ((layOutAll parent arena.classes.size [tree]).map (·.qname)) with
      | some qname => .error (.duplicateClass qname)
      | none => flattenFrom (laidOut arena parent [tree]) rest
  | node decl inner => by
    let id := arena.classes.size
    have hnames : (layOutAll parent id [node decl inner]).map (·.qname) =
        decl.qname :: (layOutAll (some id) (id + 1) inner).map (·.qname) := by
      simp [layOutAll, layOut]
    rw [flattenFrom, hnames, firstRepeated]
    rcases file?_cases arena decl parent with ⟨hfile, hin⟩ | ⟨filed, hfile, hnew, hsize, htaken⟩
    · rw [hfile, if_pos (List.contains_iff_mem.mpr hin)]
    · rw [hfile, if_neg (fun h => hnew (List.contains_iff_mem.mp h))]
      have hnested : (nest filed.classes parent [id]).size = id + 1 := by rw [size_nest, hsize]
      have hinner := @flattenFrom_push { filed with classes := nest filed.classes parent [id] }
        (some id) (by simp [hnested]) rest inner
      rw [laidOut_node hparent hfile, hnested] at hinner
      rw [← htaken]
      exact hinner

/-- Filing the trees of one class lays them out, unless a name is repeated. -/
theorem flattenFrom_push {arena : Arena} {parent : Option Nat}
    (hparent : ∀ p ∈ parent, p < arena.classes.size) (rest : Pending) :
    ∀ trees : List ClassTree, flattenFrom arena (push parent trees rest) =
      match firstRepeated (takenNames arena)
        ((layOutAll parent arena.classes.size trees).map (·.qname)) with
      | some qname => .error (.duplicateClass qname)
      | none => flattenFrom (laidOut arena parent trees) rest
  | [] => by
    rw [laidOut_nil]
    rfl
  | tree :: more => by
    have hsize : (laidOut arena parent [tree]).classes.size = arena.classes.size + tree.size := by
      simp [laidOut, size_behind, sizeAll]
    have hnames : (layOutAll parent arena.classes.size (tree :: more)).map (·.qname) =
        (layOutAll parent arena.classes.size [tree]).map (·.qname) ++
          (layOutAll parent (arena.classes.size + tree.size) more).map (·.qname) := by
      simp [layOutAll]
    have hinside : ∀ p ∈ parent, p < (laidOut arena parent [tree]).classes.size := by
      intro p hp
      rw [hsize]
      exact Nat.lt_add_right _ (hparent p hp)
    have hfirst := flattenFrom_tree hparent (push parent more rest) tree
    have hmore := flattenFrom_push hinside rest more
    rw [firstRepeated_congr fun _ => mem_takenNames_laidOut, hsize, laidOut_cons hparent] at hmore
    rw [push, List.foldr_cons, hnames, firstRepeated_append]
    refine hfirst.trans ?_
    cases firstRepeated (takenNames arena)
        ((layOutAll parent arena.classes.size [tree]).map (·.qname)) with
    | some qname => rfl
    | none => exact hmore

end

/-! ## The forest -/

def qnames (f : Forest) : List String := f.classes.toList.map (·.qname)

theorem flattenFrom_start (trees : List ClassTree) :
    flattenFrom {} (push none trees []) =
      match firstRepeated [] (ofTrees trees).qnames with
      | some qname => .error (.duplicateClass qname)
      | none => .ok (ofTrees trees).toArena := by
  have hstart := @flattenFrom_push {} none (by simp) [] trees
  have hlaid : laidOut {} none trees = (ofTrees trees).toArena := by
    refine Arena.ext ?_ ?_ ?_
    · simp [laidOut, behind, nest, ofTrees]
    · simp [laidOut, ofTrees]
    · simp [laidOut, ofTrees]
  have hnames : (layOutAll none 0 trees).map (·.qname) = (ofTrees trees).qnames := by
    simp [qnames, ofTrees]
  rw [hlaid, flattenFrom] at hstart
  rw [← hnames]
  exact hstart

theorem eq_toArena_of_flattenFrom {trees : List ClassTree} {arena : Arena}
    (h : flattenFrom {} (push none trees []) = .ok arena) : arena = (ofTrees trees).toArena := by
  rw [flattenFrom_start] at h
  split at h
  · exact absurd h (by simp)
  · exact (Except.ok.inj h).symm

/-- The forest of the given trees, filed class by class. -/
def flatten (trees : List ClassTree) : Except LoadError Forest :=
  match h : flattenFrom {} (push none trees []) with
  | .error e => .error e
  | .ok arena => .ok {
      toArena := arena
      inner_after := eq_toArena_of_flattenFrom h ▸ (ofTrees trees).inner_after
      parent_before := eq_toArena_of_flattenFrom h ▸ (ofTrees trees).parent_before }

/-- The trees are laid out, unless a qualified name is declared twice: the first one that was
declared before is reported. -/
theorem flatten_eq (trees : List ClassTree) :
    flatten trees =
      match firstRepeated [] (ofTrees trees).qnames with
      | some qname => .error (.duplicateClass qname)
      | none => .ok (ofTrees trees) := by
  have hstart := flattenFrom_start trees
  unfold flatten
  cases hq : firstRepeated [] (ofTrees trees).qnames with
  | some qname =>
    rw [hq] at hstart
    split
    · rename_i e he
      rw [Except.error.inj (he.symm.trans hstart)]
    · rename_i arena hok
      exact absurd (hok.symm.trans hstart) (by simp)
  | none =>
    rw [hq] at hstart
    split
    · rename_i e he
      exact absurd (he.symm.trans hstart) (by simp)
    · rename_i arena hok
      obtain rfl := Except.ok.inj (hok.symm.trans hstart)
      rfl

theorem eq_ofTrees_of_flatten {trees : List ClassTree} {f : Forest} (h : flatten trees = .ok f) :
    f = ofTrees trees := by
  rw [flatten_eq] at h
  split at h
  · exact absurd h (by simp)
  · exact (Except.ok.inj h).symm

end Forest
end SchemaModels

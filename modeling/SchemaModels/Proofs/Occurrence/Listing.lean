/-
What the loop over the stack lists.

`occurrencesFrom` lists the occurrences below a class by recursion, in pre-order.  In a forest that
was laid out from trees the loop lists the same, root by root, and leaves out what was listed before.
The check that no lineage has a class twice never applies there, because nested classes stand behind
the class around them.  From the roots of the forest itself every class is reached once, in the order
of the positions.
-/
import SchemaModels.Proofs.Bundle
import SchemaModels.Proofs.Occurrence

namespace SchemaModels
namespace Forest

/-- The occurrences of a class and of those nested in it, below the given ancestors. -/
def occurrencesFrom (f : Forest) (ancestors : List Nat) (names : List String) (id : Nat) :
    List Occurrence :=
  match _h : f.classes[id]? with
  | none => []
  | some c =>
    let lineage := ancestors ++ [id]
    let path := names ++ [f.pathName id]
    ⟨id, lineage, path⟩ :: c.inner.attach.flatMap fun ⟨j, _⟩ => f.occurrencesFrom lineage path j
termination_by f.classes.size - id
decreasing_by
  have := f.inner_after id c _h j (by assumption)
  omega

theorem innerOf_eq {f : Forest} {id : Nat} {c : SchemaClass} (hc : f.get? id = some c) :
    f.innerOf id = c.inner := by
  rw [innerOf, hc]
  rfl

theorem occurrencesFrom_eq {f : Forest} {id : Nat} (hid : id < f.size) (ancestors : List Nat)
    (names : List String) :
    f.occurrencesFrom ancestors names id =
      ⟨id, ancestors ++ [id], names ++ [f.pathName id]⟩ ::
        (f.innerOf id).flatMap
          (f.occurrencesFrom (ancestors ++ [id]) (names ++ [f.pathName id])) := by
  have hc : f.get? id = some f.classes[id] := Array.getElem?_eq_getElem hid
  rw [innerOf_eq hc, occurrencesFrom]
  split
  · rename_i hnone
    rw [get?, hnone] at hc
    exact absurd hc (by simp)
  · rename_i c hsome
    obtain rfl : f.classes[id] = c := Option.some.inj (hc.symm.trans hsome)
    simp

theorem occurrencesFrom_of_size_le {f : Forest} {id : Nat} (h : f.size ≤ id)
    (ancestors : List Nat) (names : List String) : f.occurrencesFrom ancestors names id = [] := by
  rw [occurrencesFrom]
  split
  · rfl
  · rename_i c hc
    exact absurd (lt_size_of_get? hc) (Nat.not_lt.mpr h)

/-! ## One root -/

theorem preOrder_eq_occurrencesFrom {f : Forest} {ancestors : List Nat} {names : List String}
    {id : Nat} (ho : f.IsOccurrence ⟨id, ancestors ++ [id], names ++ [f.pathName id]⟩) :
    f.occurrenceNesting.preOrder ⟨id, ancestors ++ [id], names ++ [f.pathName id]⟩ =
      f.occurrencesFrom ancestors names id := by
  induction hw : f.size - id using Nat.strongRecOn generalizing id ancestors names with
  | ind w ih =>
    subst hw
    let o : Occurrence := ⟨id, ancestors ++ [id], names ++ [f.pathName id]⟩
    rw [Nesting.preOrder_eq, occurrencesFrom_eq ho.known]
    refine congrArg (List.cons _) ?_
    calc (f.innerOccurrences o).flatMap f.occurrenceNesting.preOrder
        = (f.innerOf id).flatMap fun j => f.occurrenceNesting.preOrder (f.innerOccurrence o j) := by
          rw [ho.innerOccurrences_eq, List.flatMap_map]
      _ = (f.innerOf id).flatMap (f.occurrencesFrom o.lineage o.path) := by
          refine List.flatMap_congr fun j hj => ?_
          have hlt := lt_of_mem_innerOf hj
          exact ih (f.size - j) (by omega) (ho.extend hj) rfl

theorem listed_eq (f : Forest) (roots : List Nat) :
    f.listed roots = roots.flatMap (f.occurrencesFrom [] []) := by
  induction roots with
  | nil => rfl
  | cons root rest ih =>
    rw [List.flatMap_cons, ← ih]
    by_cases hroot : root < f.size
    · have hknown : f.known (root :: rest) = root :: f.known rest :=
        List.filter_cons_of_pos (decide_eq_true hroot)
      rw [← preOrder_eq_occurrencesFrom (isOccurrence_root hroot), listed, hknown]
      rfl
    · have hknown : f.known (root :: rest) = f.known rest :=
        List.filter_cons_of_neg (by simpa using hroot)
      rw [occurrencesFrom_of_size_le (Nat.not_lt.mp hroot), listed, hknown]
      rfl

/-! ## Ways from the roots -/

/-- Every way down from a root is listed, and all that is listed is such a way. -/
theorem mem_listed_iff {f : Forest} {roots : List Nat} {o : Occurrence} :
    o ∈ f.listed roots ↔
      f.IsOccurrence o ∧ ∃ root ∈ roots, o.lineage.head? = some root := by
  constructor
  · intro ho
    refine ⟨isOccurrence_of_mem_listed ho, ?_⟩
    obtain ⟨start, hstart, ho⟩ := Nesting.mem_listing_iff.mp ho
    obtain ⟨root, hroot, rfl⟩ := List.mem_map.mp hstart
    refine ⟨root, (mem_known_iff.mp hroot).1, ?_⟩
    refine Nesting.preOrder_induction (P := fun p : Occurrence => p.lineage.head? = some root)
      (fun p hp q hq => ?_) rfl o ho
    obtain ⟨id, -, rfl⟩ := List.mem_map.mp hq
    rw [innerOccurrence, List.head?_append, hp]
    rfl
  · rintro ⟨ho, root, hroot, hhead⟩
    obtain ⟨enclosing, hends⟩ := ho.ends
    -- The induction goes up the way from its end; what is left of the way is listed before.
    induction enclosing using List.reverseRecOn generalizing o with
    | nil =>
      rw [hends] at hhead
      obtain rfl : o.id = root := Option.some.inj hhead
      have hknown : o.id ∈ f.known roots := mem_known_iff.mpr ⟨hroot, ho.known⟩
      have heq : f.rootOccurrence o.id = o :=
        Occurrence.ext rfl hends.symm (by rw [ho.path_eq, hends]; rfl)
      exact Nesting.mem_listing_iff.mpr
        ⟨o, List.mem_map.mpr ⟨o.id, hknown, heq⟩, Nesting.self_mem_preOrder o⟩
    | append_singleton above i ih =>
      have hchain := ho.chain
      rw [hends] at hchain hhead
      obtain ⟨habove, -, hlink⟩ := List.isChain_append.mp hchain
      have hid : o.id ∈ f.innerOf i := hlink i (by simp) o.id rfl
      let outer : Occurrence := ⟨i, above ++ [i], (above ++ [i]).map f.pathName⟩
      have houter : f.IsOccurrence outer :=
        ⟨Nat.lt_trans (lt_of_mem_innerOf hid).1 (lt_of_mem_innerOf hid).2, ⟨above, rfl⟩, habove,
          rfl⟩
      have hlisted : outer ∈ f.listed roots := by
        refine ih houter ?_ rfl
        rwa [List.head?_append_of_ne_nil _ (by simp)] at hhead
      have heq : f.innerOccurrence outer o.id = o :=
        Occurrence.ext rfl hends.symm (by rw [ho.path_eq, hends]; simp [innerOccurrence, outer])
      exact Nesting.mem_listing_of_mem_inner hlisted (houter.mem_inner_iff.mpr ⟨o.id, hid, heq⟩)

/-! ## The roots of the forest -/

mutual

/-- Below the root of a tree its classes are met in the order in which they were laid out. -/
theorem ids_occurrencesFrom_layOut {f : Forest} (parent : Option Nat) (next : Nat)
    (ancestors : List Nat) (names : List String) :
    ∀ tree : ClassTree, f.StandAt next (ClassTree.layOut parent next tree) →
      (f.occurrencesFrom ancestors names next).map (·.id) = List.range' next tree.size
  | .node decl inner, h => by
    obtain ⟨hroot, hbelow⟩ := h.cons
    have hnext : next < f.size := lt_size_of_get? hroot
    rw [occurrencesFrom_eq hnext, innerOf_eq hroot, List.map_cons,
      ids_occurrencesFrom_layOutAll (some next) (next + 1) _ _ inner hbelow, ClassTree.size,
      Nat.add_comm 1, List.range'_succ]

theorem ids_occurrencesFrom_layOutAll {f : Forest} (parent : Option Nat) (next : Nat)
    (ancestors : List Nat) (names : List String) :
    ∀ trees : List ClassTree, f.StandAt next (ClassTree.layOutAll parent next trees) →
      ((ClassTree.rootIds next trees).flatMap (f.occurrencesFrom ancestors names)).map (·.id) =
        List.range' next (ClassTree.sizeAll trees)
  | [], _ => rfl
  | tree :: rest, h => by
    obtain ⟨hfirst, hrest⟩ := StandAt.append h
    rw [ClassTree.length_layOut] at hrest
    rw [ClassTree.rootIds, List.flatMap_cons, List.map_append,
      ids_occurrencesFrom_layOut parent next ancestors names tree hfirst,
      ids_occurrencesFrom_layOutAll parent (next + tree.size) ancestors names rest hrest,
      ClassTree.sizeAll, List.range'_append_1]

end

theorem size_ofTrees (trees : List ClassTree) :
    (ofTrees trees).size = ClassTree.sizeAll trees := by
  rw [size, ofTrees, List.size_toArray, ClassTree.length_layOutAll]

theorem map_id_listed_roots (trees : List ClassTree) :
    ((ofTrees trees).listed (ofTrees trees).roots).map (·.id) = (ofTrees trees).ids := by
  rw [listed_eq, ids, size_ofTrees, List.range_eq_range']
  exact ids_occurrencesFrom_layOutAll none 0 [] [] trees (standAt_ofTrees trees)

/-- From the roots of the forest a class is reached along its whole lineage. -/
theorem lineage_eq_of_mem_listed_roots {trees : List ClassTree} :
    ∀ o ∈ (ofTrees trees).listed (ofTrees trees).roots,
      o.lineage = (ofTrees trees).lineage o.id := by
  intro o ho
  obtain ⟨start, hstart, ho⟩ := Nesting.mem_listing_iff.mp ho
  obtain ⟨root, hroot, rfl⟩ := List.mem_map.mp hstart
  obtain ⟨c, hc, hp⟩ := (mem_roots_ofTrees trees).mp (mem_known_iff.mp hroot).1
  refine Nesting.preOrder_induction
    (P := fun p : Occurrence => p.lineage = (ofTrees trees).lineage p.id) ?_ ?_ o ho
  · intro p hp q hq
    obtain ⟨id, hid, rfl⟩ := List.mem_map.mp hq
    obtain ⟨d, hd, hin⟩ := mem_innerOf_iff.mp (List.mem_of_mem_filter hid)
    obtain ⟨e, he, hparent⟩ := linked_ofTrees trees p.id d hd id hin
    rw [innerOccurrence, lineage_of_parent he hparent, hp]
  · exact (lineage_of_root hc hp).symm

/-- From the roots of the forest every class is reached once, in order. -/
theorem occurrences_roots (trees : List ClassTree) :
    (ofTrees trees).occurrences (ofTrees trees).roots =
      (ofTrees trees).ids.map fun id =>
        ⟨id, (ofTrees trees).lineage id,
          ((ofTrees trees).lineage id).map (ofTrees trees).pathName⟩ := by
  let f := ofTrees trees
  have hids := map_id_listed_roots trees
  have hnodup : ((f.listed f.roots).map (·.id)).Nodup := hids ▸ List.nodup_range
  have hdiffer : (f.listed f.roots).Pairwise fun o p => decide (p.site = o.site) = false := by
    rw [List.Nodup, List.pairwise_map] at hnodup
    refine hnodup.imp fun {o p} hne => ?_
    exact decide_eq_false fun h => hne (congrArg Prod.fst h).symm
  have hall : f.occurrences f.roots = f.listed f.roots :=
    (Nesting.visit_eq ((linked_ofTrees trees).tellApart f.roots)).trans
      (FirstMet.eraseDupsBy_eq_self hdiffer)
  rw [hall, ← hids, List.map_map]
  refine (List.map_id _).symm.trans (List.map_congr_left fun o ho => ?_)
  have hlineage := lineage_eq_of_mem_listed_roots o ho
  have hpath : o.path = ((ofTrees trees).lineage o.id).map (ofTrees trees).pathName := by
    rw [(isOccurrence_of_mem_listed ho).path_eq, hlineage]
  exact Occurrence.ext rfl hlineage hpath

/-! ## Any roots -/

/-- Root by root in pre-order, repeats left out: every way down from a root is listed once, classes
and dotted paths tell all of them apart, and from the roots of the forest there is one way to every
class. -/
theorem occurrences_eq_listing {b : Bundle} {m : Model} (hm : b.model = .ok m)
    (roots : List Nat) :
    m.forest.occurrences roots =
        (roots.flatMap (m.forest.occurrencesFrom [] [])).eraseDupsBy Occurrence.same ∧
      (∀ o, o ∈ m.forest.occurrences roots ↔
        m.forest.IsOccurrence o ∧ ∃ root ∈ roots, o.lineage.head? = some root) ∧
      ((m.forest.occurrences roots).map Occurrence.site).Nodup ∧
      (∀ o ∈ m.forest.occurrences roots, o.lineage <:+ m.forest.lineage o.id ∧
        o.path = o.lineage.map fun id => className (m.forest.nameOf id)) ∧
      (∀ o ∈ m.forest.occurrences roots, ∀ p ∈ m.forest.occurrences roots,
        o.id = p.id → o.key = p.key → o.lineage = p.lineage) ∧
      m.forest.occurrences m.forest.roots = m.forest.ids.map fun id =>
        ⟨id, m.forest.lineage id, (m.forest.lineage id).map m.forest.pathName⟩ := by
  have hlinked : m.forest.Linked := Bundle.linked_of_model hm
  refine ⟨?listing, ?ways, Nesting.nodup_map_visit _ _ _, ?lineages, ?keys, ?roots⟩
  case listing =>
    rw [← listed_eq]
    refine (Nesting.visit_eq (hlinked.tellApart roots)).trans ?_
    refine FirstMet.eraseDupsBy_congr fun o ho p hp => ?_
    have hsite := (isOccurrence_of_mem_listed ho).site_eq_iff (isOccurrence_of_mem_listed hp)
    rw [Bool.eq_iff_iff, decide_eq_true_iff, hsite]
    simp [Occurrence.same]
  case ways =>
    intro o
    rw [hlinked.mem_occurrences_iff, mem_listed_iff]
  case lineages =>
    intro o ho
    have his := isOccurrence_of_mem ho
    exact ⟨hlinked.lineage_suffix his, his.path_eq⟩
  case keys =>
    intro o ho p hp hid hkey
    have heq : o = p := hlinked.eq_of_site_eq (isOccurrence_of_mem ho) (isOccurrence_of_mem hp)
      (Prod.ext hid hkey)
    rw [heq]
  case roots =>
    rw [Bundle.model_forest hm]
    exact occurrences_roots b.classes

/-- Two documents of one name, each with items of one name. -/
def twinBundle : Bundle where
  classes :=
    [.node { qname := "a#Doc", name := "Doc" } [.node { qname := "a#Item", name := "Item" } []],
     .node { qname := "b#Doc", name := "Doc" } [.node { qname := "b#Item", name := "Item" } []]]

/-- The twins have one dotted path and are listed both; an item is listed on each of the two ways to
it, and a document that is given again is not. -/
theorem twins_listed :
    ∃ m, twinBundle.model = .ok m ∧
      (m.forest.occurrences [3, 0, 1, 0, 2]).map Occurrence.site =
        [(3, "Item"), (0, "Doc"), (1, "Doc.Item"), (1, "Item"), (2, "Doc"), (3, "Doc.Item")] ∧
      m.forest.occurrences [3, 0, 1, 0, 2] =
        ([3, 0, 1, 0, 2].flatMap (m.forest.occurrencesFrom [] [])).eraseDupsBy Occurrence.same := by
  obtain ⟨m, hm, hcheck⟩ := twinBundle.exists_model
    (fun m => decide ((m.forest.occurrences [3, 0, 1, 0, 2]).map Occurrence.site =
      [(3, "Item"), (0, "Doc"), (1, "Doc.Item"), (1, "Item"), (2, "Doc"), (3, "Doc.Item")]))
    (by decide +kernel)
  exact ⟨m, hm, of_decide_eq_true hcheck, (occurrences_eq_listing hm [3, 0, 1, 0, 2]).1⟩

end Forest
end SchemaModels

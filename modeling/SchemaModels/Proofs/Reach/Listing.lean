/-
Reaching classes group by group.

A walk lists the pre-orders of its roots with repeats left out.  Adding a class that is there changes
nothing, so the repeats may as well be added: `addFrom_eq`.  Then the lists of one walk after another
run together, and several walks come to the same as one from all their roots, first met first:
`foldl_addFrom_eq`.
-/
import SchemaModels.Proofs.Reach

namespace SchemaModels

theorem Forest.preOrder_of_get?_eq_none {f : Forest} {id : Nat} (h : f.get? id = none) :
    f.classNesting.preOrder id = [id] := by
  have hinner : f.classNesting.inner id = [] := by
    show f.innerOf id = []
    rw [Forest.innerOf, h]
    rfl
  rw [Nesting.preOrder_eq, hinner]
  rfl

/-- The stack lists what the recursion does, each class where it is met first. -/
theorem Forest.walk_eq (f : Forest) (roots : List Nat) :
    f.walk roots = (f.classNesting.listing (f.known roots)).eraseDups := by
  have hkeys : Nesting.TellApart (fun j : Nat => j) (f.classNesting.listing (f.known roots)) :=
    fun _ _ _ _ h => h
  exact Nesting.visit_eq hkeys

theorem Forest.reaches_flatten_iff {f : Forest} {scopes : List (List Nat)} {id : Nat} :
    f.Reaches scopes.flatten id ↔ ∃ roots ∈ scopes, f.Reaches roots id := by
  constructor
  · rintro ⟨root, hroot, hway⟩
    obtain ⟨roots, hroots, hin⟩ := List.mem_flatten.mp hroot
    exact ⟨roots, hroots, root, hin, hway⟩
  · rintro ⟨roots, hroots, root, hin, hway⟩
    exact ⟨root, List.mem_flatten.mpr ⟨roots, hroots, hin⟩, hway⟩

namespace Reach

variable {f : Forest} {reach : Reach}

/-- The class is among those of its kind, or there is no such class. -/
def Has (f : Forest) (reach : Reach) (id : Nat) : Prop :=
  ∀ enumeration, IsOfKind f enumeration id → id ∈ reach.ofKind enumeration

theorem has_add_iff {j id : Nat} : Has f (add f reach j) id ↔ Has f reach id ∨ j = id := by
  simp only [Has, mem_ofKind_add_iff]
  constructor
  · intro h
    by_cases hj : j = id
    · exact Or.inr hj
    · exact Or.inl fun enumeration hkind =>
        (h enumeration hkind).resolve_right fun hsame => hj hsame.1
  · rintro (h | rfl) enumeration hkind
    · exact Or.inl (h enumeration hkind)
    · exact Or.inr ⟨rfl, hkind⟩

theorem add_of_has {id : Nat} (h : Has f reach id) : add f reach id = reach := by
  unfold add
  cases hid : f.get? id with
  | none => rfl
  | some c =>
    have hin : id ∈ reach.ofKind c.isEnumeration := h _ ⟨c, hid, rfl⟩
    cases hkind : c.isEnumeration with
    | true =>
      rw [hkind] at hin
      simp [hkind, reach.mem_simpleSet id |>.mpr hin]
    | false =>
      rw [hkind] at hin
      simp [hkind, reach.mem_complexSet id |>.mpr hin]

/-- Only the order counts in which classes are met, not how often. -/
theorem addFrom_eq (f : Forest) (reach : Reach) (roots : List Nat) :
    addFrom f reach roots = (roots.flatMap f.classNesting.preOrder).foldl (add f) reach := by
  have hknown : ∀ reach : Reach, (f.classNesting.listing (f.known roots)).foldl (add f) reach =
      (roots.flatMap f.classNesting.preOrder).foldl (add f) reach := by
    induction roots with
    | nil => exact fun _ => rfl
    | cons root rest ih =>
      intro reach
      rw [List.flatMap_cons, List.foldl_append]
      by_cases hroot : root < f.size
      · have hcons : f.known (root :: rest) = root :: f.known rest :=
          List.filter_cons_of_pos (by simpa using hroot)
        rw [hcons, Nesting.listing, List.flatMap_cons, List.foldl_append]
        exact ih _
      · -- A walk leaves out a root that is no class, and adding it changes nothing.
        have hcons : f.known (root :: rest) = f.known rest :=
          List.filter_cons_of_neg (by simpa using hroot)
        have hnone : f.get? root = none := Array.getElem?_eq_none (Nat.le_of_not_lt hroot)
        have hskip : add f reach root = reach := by rw [add, hnone]
        rw [hcons, Forest.preOrder_of_get?_eq_none hnone, List.foldl_cons, List.foldl_nil, hskip]
        exact ih reach
  rw [addFrom, Forest.walk_eq, ← hknown]
  exact foldl_eraseDups (fun _ _ _ => has_add_iff) (fun _ _ => add_of_has) _ _

/-- One walk after the other comes to the same as one from all roots. -/
theorem foldl_addFrom_eq (f : Forest) (scopes : List (List Nat)) (reach : Reach) :
    scopes.foldl (addFrom f) reach = addFrom f reach scopes.flatten := by
  induction scopes generalizing reach with
  | nil => rw [addFrom_eq]; rfl
  | cons roots rest ih =>
    rw [List.foldl_cons, ih, addFrom_eq, addFrom_eq, addFrom_eq, List.flatten_cons,
      List.flatMap_append, List.foldl_append]

/-- Of different classes those of a kind are kept, in order. -/
theorem ofKind_foldl_add {ids : List Nat} (hids : ids.Nodup) (enumeration : Bool) :
    (ids.foldl (add f) {}).ofKind enumeration =
      ids.filter fun id => (f.get? id).map SchemaClass.isEnumeration = some enumeration := by
  induction ids using List.reverseRecOn with
  | nil => cases enumeration <;> rfl
  | append_singleton ids last ih =>
    obtain ⟨hnodup, -, hnew⟩ := List.nodup_append.mp hids
    have hlast : last ∉ ids := fun hin => hnew last hin last List.mem_cons_self rfl
    rw [List.foldl_append, List.foldl_cons, List.foldl_nil, ofKind_add, ih hnodup,
      List.filter_append]
    by_cases hkind : (f.get? last).map SchemaClass.isEnumeration = some enumeration
    · rw [if_pos ⟨hkind, fun hin => hlast (List.mem_of_mem_filter hin)⟩,
        List.filter_cons_of_pos (by simpa using hkind), List.filter_nil]
    · rw [if_neg (fun h => hkind h.1), List.filter_cons_of_neg (by simpa using hkind),
        List.filter_nil, List.append_nil]

theorem ofKind_foldl_addFrom (f : Forest) (scopes : List (List Nat)) (enumeration : Bool) :
    (scopes.foldl (addFrom f) {}).ofKind enumeration =
      (scopes.flatten.flatMap f.classNesting.preOrder).eraseDups.filter fun id =>
        (f.get? id).map SchemaClass.isEnumeration = some enumeration := by
  rw [foldl_addFrom_eq, addFrom_eq, ← ofKind_foldl_add (FirstMet.nodup_eraseDups _),
    foldl_eraseDups (fun _ _ _ => has_add_iff) fun _ _ => add_of_has]

theorem isOfKind_true_iff {id : Nat} :
    IsOfKind f true id ↔ (f.get? id).any SchemaClass.isEnumeration = true := by
  rw [isOfKind_iff]
  cases f.get? id <;> simp

theorem isOfKind_false_iff {id : Nat} :
    IsOfKind f false id ↔ (f.get? id).any SchemaClass.isComplex = true := by
  rw [isOfKind_iff]
  cases f.get? id <;> simp [SchemaClass.isComplex_eq]

theorem exists_isOfKind_iff {id : Nat} :
    IsOfKind f true id ∨ IsOfKind f false id ↔ id < f.size := by
  rw [isOfKind_iff, isOfKind_iff]
  cases hid : f.get? id with
  | none =>
    have hsize : f.size ≤ id := Array.getElem?_eq_none_iff.mp hid
    simp only [Option.map_none, reduceCtorEq, or_self, false_iff]
    omega
  | some c =>
    have hsize : id < f.size := Forest.lt_size_of_get? hid
    cases hkind : c.isEnumeration <;> simp [hkind, hsize]

/-- The walks from several groups of roots reach, each class once, what the pre-orders of all the
roots list, sorted by kind. -/
theorem reached_in_preOrder (f : Forest) (scopes : List (List Nat)) :
    (∀ reach, scopes.foldl (addFrom f) reach = addFrom f reach scopes.flatten) ∧
      let reach := scopes.foldl (addFrom f) {}
      let listed := (scopes.flatten.flatMap f.classNesting.preOrder).eraseDups
      (reach.simple = listed.filter (fun id => (f.get? id).any SchemaClass.isEnumeration) ∧
        reach.complex = listed.filter fun id => (f.get? id).any SchemaClass.isComplex) ∧
      (reach.simple.Nodup ∧ reach.complex.Nodup ∧ reach.simple.Disjoint reach.complex) ∧
      (∀ id, id ∈ reach.simple ∨ id ∈ reach.complex ↔
        id < f.size ∧ f.Reaches scopes.flatten id) ∧
      ∀ id, (reach.isSimple id = true ↔ id ∈ reach.simple) ∧
        (reach.isComplex id = true ↔ id ∈ reach.complex) := by
  refine ⟨foldl_addFrom_eq f scopes, ?_⟩
  intro reach listed
  have hlisted : listed.Nodup := FirstMet.nodup_eraseDups _
  have hmem : ∀ enumeration id, id ∈ reach.ofKind enumeration ↔
      IsOfKind f enumeration id ∧ f.Reaches scopes.flatten id := by
    intro enumeration id
    rw [Forest.reaches_flatten_iff]
    exact mem_ofKind_foldl_addFrom_iff
  have hsimple : reach.simple =
      listed.filter fun id => (f.get? id).any SchemaClass.isEnumeration := by
    refine (ofKind_foldl_addFrom f scopes true).trans (List.filter_congr fun id _ => ?_)
    rw [Bool.eq_iff_iff, decide_eq_true_iff, ← isOfKind_iff, isOfKind_true_iff]
  have hcomplex : reach.complex =
      listed.filter fun id => (f.get? id).any SchemaClass.isComplex := by
    refine (ofKind_foldl_addFrom f scopes false).trans (List.filter_congr fun id _ => ?_)
    rw [Bool.eq_iff_iff, decide_eq_true_iff, ← isOfKind_iff, isOfKind_false_iff]
  refine ⟨⟨hsimple, hcomplex⟩, ⟨?_, ?_, ?disjoint⟩, ?reached,
    fun id => ⟨isSimple_iff, isComplex_iff⟩⟩
  · rw [hsimple]
    exact hlisted.filter _
  · rw [hcomplex]
    exact hlisted.filter _
  case disjoint =>
    -- A class in both lists would be of both kinds.
    intro id htrue hfalse
    obtain ⟨c, hc, henumeration⟩ := ((hmem true id).mp htrue).1
    obtain ⟨d, hd, hcomplex⟩ := ((hmem false id).mp hfalse).1
    obtain rfl : c = d := Option.some.inj (hc.symm.trans hd)
    exact absurd (henumeration.symm.trans hcomplex) (by decide)
  case reached =>
    intro id
    rw [← exists_isOfKind_iff, or_and_right, ← hmem, ← hmem]
    rfl

end Reach
end SchemaModels

/-
Merging repeated attributes is grouping.

The merge goes through the attributes once and changes what it has merged so far.  `merge_eq_map`
says what comes out of that: of the attributes that share a slot the first one stays in its place
and stands for all of them (`unite`), and attributes that are not merged all stay as they are.  No
two attributes of the result are merged any more, so that merging again changes nothing, however
upper bounds are combined.
-/
import SchemaModels.Merge
import SchemaModels.Proofs.FirstMet

namespace SchemaModels
namespace Attribute

variable (combine : MaxOccurs → MaxOccurs → MaxOccurs)

/-- A later attribute is merged into this one. -/
def repeats (later first : Attribute) : Bool := later.isMergeable && first.sameSlot later

def unite (first : Attribute) (others : List Attribute) : Attribute :=
  { first with
    documentation := (first :: others).findSome? (·.documentation)
    minOccurs := ((first :: others).map (·.minOccurs)).min (by simp)
    maxOccurs := (others.map (·.maxOccurs)).foldl combine first.maxOccurs
    types := first.types ++ ((others.flatMap (·.types)).filter (· ∉ first.types)).eraseDups }

/-- What a class has in the place of an attribute that is the first of its slot. -/
def united (attrs : List Attribute) (a : Attribute) : Attribute :=
  if a.isMergeable then unite combine a (attrs.filter a.sameSlot).tail else a

/-! ## Slots -/

theorem sameSlot_iff {a b : Attribute} :
    a.sameSlot b = true ↔ a.name = b.name ∧ a.kind = b.kind := by
  rw [sameSlot, Bool.and_eq_true, beq_iff_eq, beq_iff_eq]

theorem isMergeable_congr {a b : Attribute} (h : a.kind = b.kind) :
    a.isMergeable = b.isMergeable := by
  rw [isMergeable, isMergeable, h]

theorem repeats_iff {a b : Attribute} :
    repeats b a = true ↔ a.isMergeable = true ∧ a.sameSlot b = true := by
  rw [repeats, Bool.and_eq_true]
  refine and_congr_left fun h => ?_
  rw [isMergeable_congr (sameSlot_iff.mp h).2]

theorem repeats_congr {a a' b b' : Attribute} (ha : a.name = a'.name ∧ a.kind = a'.kind)
    (hb : b.name = b'.name ∧ b.kind = b'.kind) : repeats b a = repeats b' a' := by
  rw [repeats, repeats, sameSlot, sameSlot, isMergeable_congr hb.2, ha.1, ha.2, hb.1, hb.2]

theorem united_slot (attrs : List Attribute) (a : Attribute) :
    (united combine attrs a).name = a.name ∧ (united combine attrs a).kind = a.kind := by
  rw [united]
  split <;> exact ⟨rfl, rfl⟩

/-- An attribute that is not merged into the first one shares its slot with none of those that
are. -/
theorem filter_sameSlot_cons {a b : Attribute} {rest : List Attribute} (hb : b.isMergeable = true)
    (hnew : repeats b a = false) :
    (a :: rest).filter b.sameSlot =
      (rest.filter fun c => repeats c a = false).filter b.sameSlot := by
  have hother : a.sameSlot b = false := by
    rwa [repeats, hb, Bool.true_and] at hnew
  have hne : ¬(a.name = b.name ∧ a.kind = b.kind) := by
    rw [← sameSlot_iff, hother]
    decide
  have hfirst : ¬b.sameSlot a = true := by
    rw [sameSlot_iff]
    exact fun h => hne ⟨h.1.symm, h.2.symm⟩
  rw [List.filter_cons_of_neg hfirst, List.filter_filter]
  refine List.filter_congr fun c _ => ?_
  by_cases hc : b.sameSlot c = true
  · obtain ⟨hname, hkind⟩ := sameSlot_iff.mp hc
    have hapart : repeats c a = false := by
      rw [← hnew]
      exact repeats_congr ⟨rfl, rfl⟩ ⟨hname.symm, hkind.symm⟩
    simp [hc, hapart]
  · simp [hc]

/-! ## Uniting -/

theorem unionTypes_eq (first other : List TypeReference) :
    unionTypes first other = first ++ (other.filter (· ∉ first)).eraseDups := by
  induction other generalizing first with
  | nil => simp [unionTypes]
  | cons t other ih =>
    by_cases ht : t ∈ first
    · have hstep : unionTypes first (t :: other) = unionTypes first other := by
        simp [unionTypes, ht]
      rw [hstep, ih, List.filter_cons_of_neg (by simpa using ht)]
    · have hstep : unionTypes first (t :: other) = unionTypes (first ++ [t]) other := by
        simp [unionTypes, ht]
      rw [hstep, ih, List.filter_cons_of_pos (by simpa using ht), List.eraseDups_cons,
        List.filter_filter, List.append_assoc, List.singleton_append]
      congr 4
      funext u
      rw [Bool.eq_iff_iff]
      simp [and_comm]

theorem unionTypes_append (first other more : List TypeReference) :
    unionTypes first (other ++ more) = unionTypes (unionTypes first other) more :=
  List.foldl_append

theorem unite_nil (a : Attribute) : unite combine a [] = a := by
  cases a with
  | mk name documentation =>
    cases documentation <;> simp [unite]

theorem foldl_absorb (first : Attribute) (others : List Attribute) :
    others.foldl (absorb combine) first = unite combine first others := by
  induction others generalizing first with
  | nil => exact (unite_nil combine first).symm
  | cons a others ih =>
    have htypes : (absorb combine first a).types ++ ((others.flatMap (·.types)).filter
          (· ∉ (absorb combine first a).types)).eraseDups =
        first.types ++ (((a :: others).flatMap (·.types)).filter (· ∉ first.types)).eraseDups := by
      rw [← unionTypes_eq, ← unionTypes_eq, List.flatMap_cons, unionTypes_append]
      rfl
    have hdocumentation : (absorb combine first a :: others).findSome? (·.documentation) =
        (first :: a :: others).findSome? (·.documentation) := by
      cases hfirst : first.documentation <;> simp [absorb, List.findSome?_cons, hfirst]
    rw [List.foldl_cons, ih, unite, htypes, hdocumentation]
    rfl

/-! ## Merging -/

/-- One step of the merge. -/
def mergeStep (merged : List Attribute) (a : Attribute) : List Attribute :=
  if a.isMergeable then mergeInto combine a merged else merged ++ [a]

theorem mergeStep_cons (first a : Attribute) (merged : List Attribute) :
    mergeStep combine (first :: merged) a =
      if repeats a first then absorb combine first a :: merged
      else first :: mergeStep combine merged a := by
  by_cases ha : a.isMergeable = true
  · simp only [mergeStep, repeats, ha, Bool.true_and, if_true, mergeInto]
  · simp [mergeStep, repeats, ha]

/-- The first attribute takes in those that repeat it, and the others are merged as if it and these
were not there. -/
theorem foldl_mergeStep_cons (first : Attribute)
    (merged attrs : List Attribute) :
    attrs.foldl (mergeStep combine) (first :: merged) =
      (attrs.filter (repeats · first)).foldl (absorb combine) first ::
        (attrs.filter fun a => repeats a first = false).foldl (mergeStep combine) merged := by
  induction attrs generalizing first merged with
  | nil => rfl
  | cons a attrs ih =>
    rw [List.foldl_cons, mergeStep_cons]
    by_cases ha : repeats a first = true
    · have hslot : ∀ b, repeats b (absorb combine first a) = repeats b first :=
        fun b => repeats_congr ⟨rfl, rfl⟩ ⟨rfl, rfl⟩
      have htaken : (a :: attrs).filter (repeats · first) = a :: attrs.filter (repeats · first) :=
        List.filter_cons_of_pos ha
      rw [if_pos ha, ih, htaken, List.filter_cons_of_neg (by simp [ha]), List.foldl_cons]
      simp only [hslot]
    · have hleft : (a :: attrs).filter (repeats · first) = attrs.filter (repeats · first) :=
        List.filter_cons_of_neg ha
      rw [if_neg ha, ih, hleft, List.filter_cons_of_pos (by simp [ha]), List.foldl_cons]

theorem merge_cons (a : Attribute) (rest : List Attribute) :
    merge combine (a :: rest) =
      unite combine a (rest.filter (repeats · a)) ::
        merge combine (rest.filter fun b => repeats b a = false) := by
  have hfirst : mergeStep combine [] a = [a] := by
    rw [mergeStep]
    split <;> rfl
  show (a :: rest).foldl (mergeStep combine) [] = _
  rw [List.foldl_cons, hfirst, foldl_mergeStep_cons, foldl_absorb]
  rfl

theorem unite_filter_repeats (a : Attribute) (rest : List Attribute) :
    unite combine a (rest.filter (repeats · a)) = united combine (a :: rest) a := by
  have hself : a.sameSlot a = true := sameSlot_iff.mpr ⟨rfl, rfl⟩
  rw [united]
  by_cases ha : a.isMergeable = true
  · have hrepeats : ∀ b, repeats b a = a.sameSlot b := by
      intro b
      rw [Bool.eq_iff_iff, repeats_iff]
      exact and_iff_right ha
    rw [if_pos ha, List.filter_cons_of_pos hself, List.tail_cons]
    simp only [hrepeats]
  · have hnone : rest.filter (repeats · a) = [] := by
      rw [List.filter_eq_nil_iff]
      exact fun b _ hb => ha (repeats_iff.mp hb).1
    rw [if_neg ha, hnone, unite_nil]

/-- The first attribute of each slot stays and stands for its slot. -/
theorem merge_eq_map :
    ∀ attrs : List Attribute,
      merge combine attrs = (attrs.eraseDupsBy repeats).map (united combine attrs)
  | [] => rfl
  | a :: rest => by
    rw [merge_cons, unite_filter_repeats, merge_eq_map (rest.filter _),
      List.eraseDupsBy_cons, List.map_cons]
    refine congrArg (List.cons _) (List.map_congr_left fun b hb => ?_)
    have hnew := (List.mem_filter.mp (FirstMet.mem_of_mem_eraseDupsBy hb)).2
    rw [decide_eq_true_iff] at hnew
    by_cases hmergeable : b.isMergeable = true
    · rw [united, united, if_pos hmergeable, if_pos hmergeable,
        filter_sameSlot_cons hmergeable hnew]
    · rw [united, united, if_neg hmergeable, if_neg hmergeable]
termination_by attrs => attrs.length
decreasing_by exact Nat.lt_succ_of_le (List.length_filter_le _ rest)

theorem pairwise_merge (attrs : List Attribute) :
    (merge combine attrs).Pairwise fun a b => repeats b a = false := by
  rw [merge_eq_map, List.pairwise_map]
  refine (FirstMet.pairwise_eraseDupsBy attrs).imp fun {a b} hab => ?_
  rwa [repeats_congr (united_slot combine attrs a) (united_slot combine attrs b)]

theorem merge_eq_self {attrs : List Attribute}
    (h : attrs.Pairwise fun a b => repeats b a = false) : merge combine attrs = attrs := by
  induction attrs with
  | nil => rfl
  | cons a rest ih =>
    obtain ⟨hfirst, hrest⟩ := List.pairwise_cons.mp h
    have hnone : rest.filter (repeats · a) = [] :=
      List.filter_eq_nil_iff.mpr fun b hb => by simp [hfirst b hb]
    have hall : (rest.filter fun b => repeats b a = false) = rest :=
      List.filter_eq_self.mpr fun b hb => by simp [hfirst b hb]
    rw [merge_cons, hnone, hall, unite_nil, ih hrest]

/-- Merging keeps the first attribute of each slot in its place, united with all others of the slot,
and every attribute that is not merged, and merging again changes nothing. -/
theorem merge_groups_slots (attrs : List Attribute) :
    merge combine attrs = (attrs.eraseDupsBy repeats).map (united combine attrs) ∧
      ∀ again, merge again (merge combine attrs) = merge combine attrs :=
  ⟨merge_eq_map combine attrs, fun again => merge_eq_self again (pairwise_merge combine attrs)⟩

/-- Elements and texts are merged, each kind for itself; XML attributes and members are not. -/
example :
    let kinds : List AttributeKind := [.element, .attr, .text, .enumeration]
    (merge MergePolicy.minimum.combine
      ((kinds ++ kinds).map fun kind => { name := "a", kind, types := [] })).map (·.kind) =
        kinds ++ [.attr, .enumeration] := by
  decide

end Attribute
end SchemaModels

/-
How often merged attributes may occur.

The two policies differ in upper bounds only.  Under the minimum policy an attribute is a list just
if all attributes of its slot are, under the sum policy just if one of them is or two of them may
occur at all.  Bounds are words, and merging keeps them so: the sum of two bounds stops at the
largest word.
-/
import SchemaModels.Proofs.Merge

namespace SchemaModels

/-! ## Upper bounds -/

namespace MaxOccurs

/-- Nothing is above an unbounded number of occurrences. -/
protected def le : MaxOccurs → MaxOccurs → Prop
  | _, .unbounded => True
  | .bounded m, .bounded n => m ≤ n
  | .unbounded, .bounded _ => False

instance : LE MaxOccurs := ⟨MaxOccurs.le⟩

/-- The bound is a word. -/
def InWord : MaxOccurs → Prop
  | .bounded n => n < Text.wordLimit
  | .unbounded => True

def allowsOne : MaxOccurs → Bool
  | .bounded n => 0 < n
  | .unbounded => true

theorem bounded_le_bounded {m n : Nat} : bounded m ≤ bounded n ↔ m ≤ n := Iff.rfl

theorem le_unbounded (m : MaxOccurs) : m ≤ unbounded := by
  cases m <;> exact trivial

theorem not_unbounded_le_bounded (n : Nat) : ¬unbounded ≤ bounded n := id

theorem le_refl (m : MaxOccurs) : m ≤ m := by
  cases m with
  | bounded n => exact Nat.le_refl n
  | unbounded => exact trivial

end MaxOccurs

namespace MergePolicy

open MaxOccurs

theorem isMany_combine_minimum (m n : MaxOccurs) :
    (combine .minimum m n).isMany = (m.isMany && n.isMany) := by
  cases m with
  | unbounded => simp [combine, isMany]
  | bounded m =>
    cases n with
    | unbounded => simp [combine, isMany]
    | bounded n =>
      rw [Bool.eq_iff_iff]
      simp only [combine, isMany, Bool.and_eq_true, decide_eq_true_iff]
      omega

theorem isMany_combine_sum (m n : MaxOccurs) :
    (combine .sum m n).isMany = (m.isMany || n.isMany || m.allowsOne && n.allowsOne) := by
  cases m with
  | unbounded => simp [combine, isMany]
  | bounded m =>
    cases n with
    | unbounded => simp [combine, isMany]
    | bounded n =>
      rw [Bool.eq_iff_iff]
      simp only [combine, isMany, allowsOne, Text.wordLimit, Bool.or_eq_true, Bool.and_eq_true,
        decide_eq_true_iff]
      omega

theorem allowsOne_combine_sum (m n : MaxOccurs) :
    (combine .sum m n).allowsOne = (m.allowsOne || n.allowsOne) := by
  cases m with
  | unbounded => simp [combine, allowsOne]
  | bounded m =>
    cases n with
    | unbounded => simp [combine, allowsOne]
    | bounded n =>
      rw [Bool.eq_iff_iff]
      simp only [combine, allowsOne, Text.wordLimit, Bool.or_eq_true, decide_eq_true_iff]
      omega

theorem isMany_foldl_minimum (m : MaxOccurs) (bounds : List MaxOccurs) :
    (bounds.foldl (combine .minimum) m).isMany = (m :: bounds).all isMany := by
  induction bounds generalizing m with
  | nil => simp
  | cons n bounds ih =>
    rw [List.foldl_cons, ih]
    simp only [List.all_cons, isMany_combine_minimum, Bool.and_assoc]

/-- Two bounds that allow one occurrence each count like one that allows several. -/
theorem isMany_foldl_sum (m : MaxOccurs) (bounds : List MaxOccurs) :
    (bounds.foldl (combine .sum) m).isMany = true ↔
      (∃ n ∈ m :: bounds, n.isMany = true) ∨ 2 ≤ (m :: bounds).countP allowsOne := by
  induction bounds generalizing m with
  | nil =>
    have hone : [m].countP allowsOne ≤ 1 := List.countP_le_length
    rw [List.foldl_nil, or_iff_left (by omega)]
    simp
  | cons n bounds ih =>
    rw [List.foldl_cons, ih]
    simp only [List.exists_mem_cons_iff, List.countP_cons, isMany_combine_sum,
      allowsOne_combine_sum]
    by_cases hboth : m.allowsOne = true ∧ n.allowsOne = true
    · refine iff_of_true (.inl (.inl ?_)) (.inr ?_)
      · simp [hboth]
      · simp only [hboth, if_true]
        omega
    · have hone : (m.allowsOne && n.allowsOne) = false := by
        rw [Bool.eq_false_iff, Ne, Bool.and_eq_true]
        exact hboth
      have hcount : (if (m.allowsOne || n.allowsOne) = true then 1 else 0) =
          (if n.allowsOne = true then 1 else 0) + if m.allowsOne = true then 1 else 0 := by
        cases hm : m.allowsOne <;> cases hn : n.allowsOne <;> simp_all
      rw [hone, hcount, Bool.or_false, Bool.or_eq_true, Nat.add_assoc]
      simp only [or_assoc]

theorem inWord_combine (policy : MergePolicy) {m n : MaxOccurs} (hm : m.InWord) (hn : n.InWord) :
    (policy.combine m n).InWord := by
  cases policy <;> cases m <;> cases n <;>
    simp only [combine, InWord, Text.wordLimit] at * <;> omega

theorem inWord_foldl (policy : MergePolicy) {m : MaxOccurs} (hm : m.InWord)
    {bounds : List MaxOccurs} (hbounds : ∀ n ∈ bounds, n.InWord) :
    (bounds.foldl policy.combine m).InWord := by
  induction bounds generalizing m with
  | nil => exact hm
  | cons n bounds ih =>
    obtain ⟨hn, hmore⟩ := List.forall_mem_cons.mp hbounds
    exact ih (inWord_combine policy hm hn) hmore

theorem combine_le_combine {m m' n : MaxOccurs} (hle : m ≤ m') (hn : n.InWord) :
    combine .minimum m n ≤ combine .sum m' n := by
  cases n with
  | unbounded =>
    have hsum : combine .sum m' .unbounded = .unbounded := by cases m' <;> rfl
    rw [hsum]
    exact le_unbounded _
  | bounded n =>
    cases m' with
    | unbounded => exact le_unbounded _
    | bounded m' =>
      cases m with
      | unbounded => exact absurd hle (not_unbounded_le_bounded m')
      | bounded m =>
        rw [bounded_le_bounded] at hle
        simp only [InWord, Text.wordLimit] at hn
        simp only [combine, Text.wordLimit, bounded_le_bounded]
        omega

theorem foldl_minimum_le_foldl_sum {m m' : MaxOccurs} (hle : m ≤ m') {bounds : List MaxOccurs}
    (hbounds : ∀ n ∈ bounds, n.InWord) :
    bounds.foldl (combine .minimum) m ≤ bounds.foldl (combine .sum) m' := by
  induction bounds generalizing m m' with
  | nil => exact hle
  | cons n bounds ih =>
    obtain ⟨hn, hmore⟩ := List.forall_mem_cons.mp hbounds
    exact ih (combine_le_combine hle hn) hmore

end MergePolicy

/-! ## Merged attributes -/

namespace Attribute

open MergePolicy

/-- The bounds of the attribute are words, as they are read. -/
def HasWordBounds (a : Attribute) : Prop :=
  a.minOccurs < Text.wordLimit ∧ a.maxOccurs.InWord

theorem filter_sameSlot_of_mem {a : Attribute} (ha : a.isMergeable = true) :
    ∀ {attrs : List Attribute}, a ∈ attrs.eraseDupsBy repeats →
      ∃ others, attrs.filter a.sameSlot = a :: others
  | b :: rest, h => by
    rw [List.eraseDupsBy_cons, List.mem_cons] at h
    rcases h with rfl | h
    · exact ⟨_, List.filter_cons_of_pos (sameSlot_iff.mpr ⟨rfl, rfl⟩)⟩
    · have hnew := (List.mem_filter.mp (FirstMet.mem_of_mem_eraseDupsBy h)).2
      rw [decide_eq_true_iff] at hnew
      rw [filter_sameSlot_cons ha hnew]
      exact filter_sameSlot_of_mem ha h
termination_by attrs => attrs.length
decreasing_by exact Nat.lt_succ_of_le (List.length_filter_le _ rest)

/-- A merged attribute is one of those given if it is not to be merged, and else unites its slot. -/
theorem mem_merge {combine : MaxOccurs → MaxOccurs → MaxOccurs} {attrs : List Attribute}
    {m : Attribute} (h : m ∈ merge combine attrs) :
    m.isMergeable = false ∧ m ∈ attrs ∨
      ∃ first others, attrs.filter m.sameSlot = first :: others ∧
        m = unite combine first others := by
  rw [merge_eq_map] at h
  obtain ⟨a, ha, rfl⟩ := List.mem_map.mp h
  by_cases hmergeable : a.isMergeable = true
  · obtain ⟨others, hslot⟩ := filter_sameSlot_of_mem hmergeable ha
    right
    rw [united, if_pos hmergeable, hslot]
    exact ⟨a, others, hslot, rfl⟩
  · left
    rw [united, if_neg hmergeable]
    exact ⟨Bool.eq_false_iff.mpr hmergeable, FirstMet.mem_of_mem_eraseDupsBy ha⟩

theorem isList_unite (combine : MaxOccurs → MaxOccurs → MaxOccurs) (first : Attribute)
    (others : List Attribute) :
    (unite combine first others).isList =
      ((others.map (·.maxOccurs)).foldl combine first.maxOccurs).isMany := rfl

theorem isList_of_minimum {attrs : List Attribute} {m : Attribute}
    (h : m ∈ merge (combine .minimum) attrs) (hm : m.isMergeable = true) :
    m.isList = true ↔ ∀ a ∈ attrs, m.sameSlot a = true → a.isList = true := by
  obtain ⟨hnot, -⟩ | ⟨first, others, hslot, hunited⟩ := mem_merge h
  · rw [hm] at hnot
    exact absurd hnot (by decide)
  have hall : (∀ a ∈ attrs, m.sameSlot a = true → a.isList = true) ↔
      ∀ a ∈ first :: others, a.isList = true := by
    rw [← hslot]
    simp only [List.mem_filter, and_imp]
  rw [hall]
  conv_lhs => rw [hunited]
  rw [isList_unite, isMany_foldl_minimum, ← List.map_cons, List.all_map, List.all_eq_true]
  rfl

theorem isList_of_sum {attrs : List Attribute} {m : Attribute}
    (h : m ∈ merge (combine .sum) attrs) (hm : m.isMergeable = true) :
    m.isList = true ↔ (∃ a ∈ attrs, m.sameSlot a = true ∧ a.isList = true) ∨
      2 ≤ (attrs.filter m.sameSlot).countP (·.maxOccurs.allowsOne) := by
  obtain ⟨hnot, -⟩ | ⟨first, others, hslot, hunited⟩ := mem_merge h
  · rw [hm] at hnot
    exact absurd hnot (by decide)
  have hsome : (∃ a ∈ attrs, m.sameSlot a = true ∧ a.isList = true) ↔
      ∃ a ∈ first :: others, a.isList = true := by
    rw [← hslot]
    simp only [List.mem_filter, and_assoc]
  rw [hsome, hslot]
  conv_lhs => rw [hunited]
  rw [isList_unite, isMany_foldl_sum, ← List.map_cons, List.countP_map]
  simp only [List.mem_map, exists_exists_and_eq_and]
  rfl

theorem hasWordBounds_of_mem_merge {policy : MergePolicy} {attrs : List Attribute}
    {m : Attribute} (hattrs : ∀ a ∈ attrs, a.HasWordBounds) (h : m ∈ merge policy.combine attrs) :
    m.HasWordBounds := by
  obtain ⟨-, hm⟩ | ⟨first, others, hslot, hunited⟩ := mem_merge h
  · exact hattrs m hm
  have hall : ∀ a ∈ first :: others, a.HasWordBounds := fun a ha =>
    hattrs a (List.mem_of_mem_filter (hslot ▸ ha))
  obtain ⟨hfirst, hothers⟩ := List.forall_mem_cons.mp hall
  rw [hunited]
  constructor
  · have hleast : (unite policy.combine first others).minOccurs ≤ first.minOccurs := by
      rw [unite]
      exact List.min_le_of_mem (List.mem_map_of_mem List.mem_cons_self)
    exact Nat.lt_of_le_of_lt hleast hfirst.1
  · refine inWord_foldl policy hfirst.2 fun n hn => ?_
    obtain ⟨a, ha, rfl⟩ := List.mem_map.mp hn
    exact (hothers a ha).2

theorem united_sum (attrs : List Attribute) (a : Attribute) :
    united (combine .sum) attrs a =
      { united (combine .minimum) attrs a with
        maxOccurs := (united (combine .sum) attrs a).maxOccurs } := by
  rw [united, united]
  split <;> rfl

theorem maxOccurs_united_le {attrs : List Attribute} (hattrs : ∀ a ∈ attrs, a.HasWordBounds)
    (a : Attribute) :
    (united (combine .minimum) attrs a).maxOccurs ≤ (united (combine .sum) attrs a).maxOccurs := by
  rw [united, united]
  split
  · refine foldl_minimum_le_foldl_sum (MaxOccurs.le_refl _) fun n hn => ?_
    obtain ⟨b, hb, rfl⟩ := List.mem_map.mp hn
    exact (hattrs b (List.mem_of_mem_filter (List.mem_of_mem_tail hb))).2
  · exact MaxOccurs.le_refl _

/-- Merging under the two policies gives the same attributes up to their upper bounds, of which the
minimum is never above the sum; which merged attributes are lists; and no bound leaves the words. -/
theorem policies_differ_in_bounds {attrs : List Attribute}
    (hattrs : ∀ a ∈ attrs, a.HasWordBounds) :
    List.Forall₂ (fun least total =>
        total = { least with maxOccurs := total.maxOccurs } ∧ least.maxOccurs ≤ total.maxOccurs)
      (merge (combine .minimum) attrs) (merge (combine .sum) attrs) ∧
    (∀ m ∈ merge (combine .minimum) attrs, m.isMergeable = true →
      (m.isList = true ↔ ∀ a ∈ attrs, m.sameSlot a = true → a.isList = true)) ∧
    (∀ m ∈ merge (combine .sum) attrs, m.isMergeable = true →
      (m.isList = true ↔ (∃ a ∈ attrs, m.sameSlot a = true ∧ a.isList = true) ∨
        2 ≤ (attrs.filter m.sameSlot).countP (·.maxOccurs.allowsOne))) ∧
    ∀ policy : MergePolicy, ∀ m ∈ merge policy.combine attrs, m.HasWordBounds := by
  refine ⟨?_, fun m => isList_of_minimum, fun m => isList_of_sum,
    fun policy m => hasWordBounds_of_mem_merge hattrs⟩
  rw [merge_eq_map, merge_eq_map, List.forall₂_map_left_iff, List.forall₂_map_right_iff,
    List.forall₂_same]
  exact fun a _ => ⟨united_sum attrs a, maxOccurs_united_le hattrs a⟩

/-- Two branches of a choice hold the same element, once as a single value and once as many times as
a word can say. -/
def branches : List Attribute :=
  [{ name := "IPI", minOccurs := 0, types := [.named "TIpi"] },
    { name := "IPI", maxOccurs := .bounded 4294967295, types := [.named "TIpi"] }]

theorem sum_of_branches_stops :
    (∀ a ∈ branches, a.HasWordBounds) ∧
      merge (combine .minimum) branches =
        [{ name := "IPI", minOccurs := 0, types := [.named "TIpi"] }] ∧
      (merge (combine .sum) branches).map (·.maxOccurs) = [.bounded 4294967295] ∧
      (∀ m ∈ merge (combine .minimum) branches, m.isList = false) ∧
      ∀ m ∈ merge (combine .sum) branches, m.isList = true ∧ m.HasWordBounds := by
  have hwords : ∀ a ∈ branches, a.HasWordBounds := by
    simp [branches, HasWordBounds, MaxOccurs.InWord, Text.wordLimit]
  obtain ⟨-, hleast, htotal, hkept⟩ := policies_differ_in_bounds hwords
  have hmergeable : ∀ policy : MergePolicy,
      ∀ m ∈ merge policy.combine branches, m.isMergeable = true := by
    intro policy
    cases policy <;> decide
  refine ⟨hwords, by decide, by decide, fun m hm => ?_, fun m hm => ⟨?_, hkept .sum m hm⟩⟩
  · rw [Bool.eq_false_iff, Ne, hleast m hm (hmergeable .minimum m hm)]
    revert m
    decide
  · rw [htotal m hm (hmergeable .sum m hm)]
    revert m
    decide

end Attribute
end SchemaModels

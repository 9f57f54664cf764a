/-
Elements inside one another, and the order in which a document has them.

Inside one element a place belongs to one element only, so an element stands in just those elements
that stand on the way down to it.  The walk that does not enter elements of certain names finds what
is reached without passing through one of them, in the order of the places, which is the order of the
document: `mem_listing_outside_iff` and `pairwise_listing_outside`.
-/
import Mathlib.Data.List.Lex
import SchemaModels.Proofs.Nesting
import SchemaModels.Xml.Element

namespace SchemaModels
namespace Xml
namespace Placed

variable {p q c d top : Placed}

/-! ## Inside -/

/-- The element `c` stands directly in `p`. -/
def Holds (p c : Placed) : Prop := c ∈ p.children

/-- The element `d` stands in `c`, at any depth. -/
def IsIn (d c : Placed) : Prop := Relation.TransGen Holds c d

theorem holds_iff :
    Holds p c ↔ ∃ i, p.element.children[i]? = some c.element ∧ c.place = p.place ++ [i] := by
  rw [Holds, children, List.mem_map]
  constructor
  · rintro ⟨⟨e, i⟩, hmem, rfl⟩
    exact ⟨i, List.mem_zipIdx_iff_getElem?.mp hmem, rfl⟩
  · rintro ⟨i, helement, hplace⟩
    refine ⟨(c.element, i), List.mem_zipIdx_iff_getElem?.mpr helement, ?_⟩
    show Placed.mk (p.place ++ [i]) c.element = c
    rw [← hplace]

theorem exists_way (h : Relation.ReflTransGen Holds c d) : ∃ way, d.place = c.place ++ way := by
  induction h with
  | refl => exact ⟨[], (List.append_nil _).symm⟩
  | tail _ hlast ih =>
    obtain ⟨way, hway⟩ := ih
    obtain ⟨i, -, hi⟩ := holds_iff.mp hlast
    exact ⟨way ++ [i], by rw [hi, hway, List.append_assoc]⟩

theorem IsIn.length_lt (h : IsIn d c) : c.place.length < d.place.length := by
  obtain ⟨b, hb, hlast⟩ := Relation.TransGen.tail'_iff.mp h
  obtain ⟨way, hway⟩ := exists_way hb
  obtain ⟨i, -, hi⟩ := holds_iff.mp hlast
  rw [hi, hway]
  simp only [List.length_append, List.length_singleton]
  omega

theorem IsIn.irrefl : ¬ IsIn c c := fun h => Nat.lt_irrefl _ h.length_lt

theorem IsIn.asymm (h : IsIn d c) : ¬ IsIn c d := fun h' =>
  Nat.lt_asymm h.length_lt h'.length_lt

/-- Inside one element a place belongs to one element only. -/
theorem eq_of_place_eq (hp : Relation.ReflTransGen Holds top p)
    (hq : Relation.ReflTransGen Holds top q) (hplace : p.place = q.place) : p = q := by
  induction hp generalizing q with
  | refl =>
    rcases Relation.reflTransGen_iff_eq_or_transGen.mp hq with rfl | hin
    · rfl
    · have := IsIn.length_lt hin
      rw [hplace] at this
      exact absurd this (Nat.lt_irrefl _)
  | tail hb hlast ih =>
    rename_i b p
    rcases Relation.ReflTransGen.cases_tail hq with rfl | ⟨b', hb', hlast'⟩
    · have hin : IsIn p q := Relation.TransGen.tail' hb hlast
      have := hin.length_lt
      rw [hplace] at this
      exact absurd this (Nat.lt_irrefl _)
    · obtain ⟨i, helement, hi⟩ := holds_iff.mp hlast
      obtain ⟨j, helement', hj⟩ := holds_iff.mp hlast'
      have hways := hplace
      rw [hi, hj] at hways
      obtain ⟨houter, hindex⟩ := List.append_inj' hways rfl
      obtain rfl : i = j := List.singleton_inj.mp hindex
      obtain rfl : b = b' := ih hb' houter
      exact Placed.ext hplace (Option.some.inj (helement.symm.trans helement'))

/-- What stands directly in `p` stands in `p` and in all that `p` stands in. -/
theorem isIn_iff_of_holds (hp : Relation.ReflTransGen Holds top p)
    (hc : Relation.ReflTransGen Holds top c) (hd : Holds p d) :
    IsIn d c ↔ c = p ∨ IsIn p c := by
  constructor
  · intro h
    obtain ⟨b, hb, hlast⟩ := Relation.TransGen.tail'_iff.mp h
    obtain ⟨i, -, hi⟩ := holds_iff.mp hd
    obtain ⟨j, -, hj⟩ := holds_iff.mp hlast
    have hplace := (List.append_inj' (hi.symm.trans hj) rfl).1
    obtain rfl : p = b := eq_of_place_eq hp (hc.trans hb) hplace
    exact (Relation.reflTransGen_iff_eq_or_transGen.mp hb).imp Eq.symm id
  · rintro (rfl | h)
    · exact Relation.TransGen.single hd
    · exact h.tail hd

/-! ## Reached without passing through -/

/-- The element `d` stands in `top`, and no element of the given names stands between them. -/
def Reaches (closed : List String) (top d : Placed) : Prop :=
  IsIn d top ∧ ∀ c, IsIn c top → IsIn d c → c.name ∉ closed

variable {closed : List String}

theorem mem_inner_outside_iff :
    d ∈ (outside closed).inner p ↔ p.name ∉ closed ∧ Holds p d := by
  show d ∈ (if closed.contains p.name then [] else p.children) ↔ _
  split
  · rename_i h
    simp [List.contains_iff_mem.mp h]
  · rename_i h
    simp [mt List.contains_iff_mem.mpr h, Holds]

theorem reaches_of_holds (h : Holds top d) : Reaches closed top d := by
  refine ⟨Relation.TransGen.single h, ?_⟩
  intro c hc hdc
  rcases (isIn_iff_of_holds .refl hc.to_reflTransGen h).mp hdc with rfl | hin
  · exact absurd hc IsIn.irrefl
  · exact absurd hc hin.asymm

theorem Reaches.step (h : Reaches closed top p) (hopen : p.name ∉ closed) (hd : Holds p d) :
    Reaches closed top d := by
  refine ⟨h.1.tail hd, ?_⟩
  intro c hc hdc
  rcases (isIn_iff_of_holds h.1.to_reflTransGen hc.to_reflTransGen hd).mp hdc with rfl | hin
  · exact hopen
  · exact h.2 c hc hin

/-- What the walk lists is what is reached without passing through a closed element. -/
theorem mem_listing_outside_iff :
    d ∈ (outside closed).listing top.children ↔ Reaches closed top d := by
  rw [Nesting.mem_listing_iff]
  constructor
  · rintro ⟨c, hc, hd⟩
    refine Nesting.preOrder_induction (P := Reaches closed top) ?_ (reaches_of_holds hc) d hd
    intro p hp b hb
    obtain ⟨hopen, hholds⟩ := mem_inner_outside_iff.mp hb
    exact hp.step hopen hholds
  · rintro ⟨hin, hbetween⟩
    obtain ⟨c, hc, hway⟩ := Relation.TransGen.head'_iff.mp hin
    refine ⟨c, hc, Nesting.mem_preOrder_iff_reflTransGen.mpr ?_⟩
    -- The induction goes down the way; whatever is on it stands between `top` and its end.
    clear hin
    induction hway with
    | refl => exact .refl
    | tail hway hlast ih =>
      rename_i b d
      have hb : IsIn b top := Relation.TransGen.head' hc hway
      have hopen : b.name ∉ closed := hbetween b hb (Relation.TransGen.single hlast)
      refine (ih ?_).tail (mem_inner_outside_iff.mpr ⟨hopen, hlast⟩)
      intro x hx hbx
      exact hbetween x hx (hbx.tail hlast)

/-! ## Document order -/

theorem place_lt_of_isIn (h : IsIn d c) : c.place < d.place := by
  obtain ⟨way, hway⟩ := exists_way h.to_reflTransGen
  have hlength := h.length_lt
  cases way with
  | nil =>
    rw [hway, List.append_nil] at hlength
    exact absurd hlength (Nat.lt_irrefl _)
  | cons i way =>
    rw [hway]
    nth_rewrite 1 [← List.append_nil c.place]
    exact List.append_left_lt (List.nil_lt_cons i way)

theorem exists_way_of_mem_preOrder (h : d ∈ (outside closed).preOrder c) :
    Relation.ReflTransGen Holds c d := by
  refine Relation.ReflTransGen.mono ?_ c d (Nesting.mem_preOrder_iff_reflTransGen.mp h)
  intro x y hy
  exact (mem_inner_outside_iff.mp hy).2

/-- What stands in an earlier child comes before what stands in a later one. -/
theorem pairwise_children (p : Placed) :
    p.children.Pairwise fun a b => ∀ a' b', Relation.ReflTransGen Holds a a' →
      Relation.ReflTransGen Holds b b' → a'.place < b'.place := by
  rw [children, List.pairwise_map, List.pairwise_iff_getElem]
  intro i j hi hj hij a' b' ha hb
  obtain ⟨way, hway⟩ := exists_way ha
  obtain ⟨way', hway'⟩ := exists_way hb
  rw [hway, hway']
  simp only [List.getElem_zipIdx, Nat.zero_add, List.append_assoc]
  exact List.append_left_lt (List.cons_lt_cons_iff.mpr (Or.inl hij))

theorem pairwise_preOrder_outside (p : Placed) :
    ((outside closed).preOrder p).Pairwise fun a b => a.place < b.place := by
  induction hw : p.size using Nat.strongRecOn generalizing p with
  | ind w ih =>
    subst hw
    rw [Nesting.preOrder_eq, List.pairwise_cons]
    constructor
    · intro d hd
      obtain ⟨c, hc, hdc⟩ := List.mem_flatMap.mp hd
      have hholds := (mem_inner_outside_iff.mp hc).2
      exact place_lt_of_isIn (Relation.TransGen.head' hholds (exists_way_of_mem_preOrder hdc))
    · rw [List.pairwise_flatMap]
      constructor
      · intro c hc
        exact ih c.size (Nesting.weight_lt_of_mem_inner hc) c rfl
      · have hsub : List.Sublist ((outside closed).inner p) p.children := by
          show List.Sublist (if closed.contains p.name then [] else p.children) p.children
          split
          · exact List.nil_sublist _
          · exact List.Sublist.refl _
        refine (p.pairwise_children.sublist hsub).imp ?_
        intro a b h a' ha b' hb
        exact h a' b' (exists_way_of_mem_preOrder ha) (exists_way_of_mem_preOrder hb)

/-- The walk lists elements in the order of the document. -/
theorem pairwise_listing_outside (closed : List String) (top : Placed) :
    ((outside closed).listing top.children).Pairwise fun a b => a.place < b.place := by
  rw [Nesting.listing, List.pairwise_flatMap]
  constructor
  · intro c _
    exact pairwise_preOrder_outside c
  · refine top.pairwise_children.imp ?_
    intro a b h a' ha b' hb
    exact h a' b' (exists_way_of_mem_preOrder ha) (exists_way_of_mem_preOrder hb)

end Placed
end Xml
end SchemaModels

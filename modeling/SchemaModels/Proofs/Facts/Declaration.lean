/-
The walk through a complex type.

The walk carries the compositors on the way down, and each element is listed with those that stand
between it and the complex type, outermost first.  Which elements are listed does not depend on what
is carried: they are the declarations that are reached without passing through a closed element.
Only those with a name get a fact, and the number of a choice, once it is given, stays.
-/
import SchemaModels.Facts.Declaration
import SchemaModels.Proofs.Text.Split
import SchemaModels.Proofs.Xml.Place

namespace SchemaModels

open Xml (Placed)
open Xml.Placed (Holds IsIn Reaches)

/-! ## Names -/

/-- A part of a name that stands behind its last colon, or is all of it. -/
def IsLocalPart (full part : String) : Prop :=
  ':' ∉ part.toList ∧ (part = full ∨ ∃ lead, full = lead ++ ":" ++ part)

theorem isLocalPart_withoutPrefix (name : String) : IsLocalPart name (withoutPrefix name) := by
  rw [withoutPrefix]
  split
  · rename_i lead part hsplit
    obtain ⟨hwhole, hnot⟩ := Text.splitLast?_char_eq_some_iff.mp hsplit
    refine ⟨by rwa [String.toList_ofList], Or.inr ⟨String.ofList lead, ?_⟩⟩
    apply String.toList_inj.mp
    simpa using hwhole
  · rename_i hsplit
    exact ⟨Text.splitLast?_char_eq_none_iff.mp hsplit, Or.inl rfl⟩

/-! ## What the walk lists -/

/-- An element declares something for a complex type: it has a name or refers to one, and nothing
between it and the complex type is closed. -/
structure Declares (complexType d : Placed) : Prop where
  reached : Reaches closedNames complexType d
  isDeclaration : d.name ∈ declarationNames
  hasName : (d.attr? "name" <|> d.attr? "ref").isSome = true

/-- The elements that declare something for a complex type, in document order. -/
structure AreDeclarations (complexType : Placed) (ds : List Placed) : Prop where
  inOrder : ds.Pairwise fun d d' => d.place < d'.place
  mem_iff : ∀ d, d ∈ ds ↔ Declares complexType d

def namedDeclarations (complexType : Placed) : List Enclosed :=
  (declarationsOf complexType).filter fun d => d.name?.isSome

theorem inner_node (e : Enclosed) :
    (Placed.outside closedNames).inner e.node = (Enclosed.nesting.inner e).map Enclosed.node := by
  show (if closedNames.contains e.node.name then [] else e.node.children) = e.inner.map _
  rw [Enclosed.inner]
  split
  · rfl
  · rw [List.map_map]
    exact (List.map_id _).symm

theorem areDeclarations_namedDeclarations (complexType : Placed) :
    AreDeclarations complexType ((namedDeclarations complexType).map Enclosed.node) := by
  have hwalk : (Enclosed.nesting.walk (complexType.children.map fun c => ⟨c, []⟩)).map
      Enclosed.node = (Placed.outside closedNames).listing complexType.children := by
    rw [Nesting.walk_eq_listing, Nesting.map_listing Enclosed.node inner_node, List.map_map]
    exact congrArg _ (List.map_id _)
  have hnamed : (namedDeclarations complexType).map Enclosed.node =
      ((Placed.outside closedNames).listing complexType.children).filter fun d =>
        (d.attr? "name" <|> d.attr? "ref").isSome && declarationNames.contains d.name := by
    rw [← hwalk, List.filter_map, namedDeclarations, declarationsOf, List.filter_filter]
    refine congrArg _ (List.filter_congr fun d _ => ?_)
    rw [Enclosed.name?, Option.isSome_map]
    rfl
  rw [hnamed]
  constructor
  case inOrder => exact (Placed.pairwise_listing_outside closedNames complexType).filter _
  case mem_iff =>
    intro d
    rw [List.mem_filter, Placed.mem_listing_outside_iff, Bool.and_eq_true, List.contains_iff_mem]
    constructor
    · rintro ⟨hreached, hname, hdeclaration⟩
      exact ⟨hreached, hdeclaration, hname⟩
    · rintro ⟨hreached, hdeclaration, hname⟩
      exact ⟨hreached, hname, hdeclaration⟩

/-! ## What the walk carries -/

namespace Enclosed

/-- An element of a complex type comes with just the compositors between them, outermost first. -/
structure IsCarried (complexType : Placed) (e : Enclosed) : Prop where
  inside : e.node.IsIn complexType
  mem_iff : ∀ c, c ∈ e.around ↔
    c.name ∈ compositorNames ∧ c.IsIn complexType ∧ e.node.IsIn c
  nested : e.around.Pairwise fun c c' => c'.IsIn c

variable {complexType : Placed} {e e' : Enclosed}

theorem mem_aroundInner_iff (c : Placed) :
    c ∈ e.aroundInner ↔ c ∈ e.around ∨ c = e.node ∧ e.node.name ∈ compositorNames := by
  rw [aroundInner]
  split
  · rename_i h
    simp [List.contains_iff_mem.mp h]
  · rename_i h
    simp [mt List.contains_iff_mem.mpr h]

theorem isCarried_child {c : Placed} (hc : Holds complexType c) :
    IsCarried complexType ⟨c, []⟩ := by
  refine ⟨Relation.TransGen.single hc, ?_, List.Pairwise.nil⟩
  intro x
  refine iff_of_false List.not_mem_nil ?_
  rintro ⟨-, hx, hcx⟩
  rcases (Placed.isIn_iff_of_holds .refl hx.to_reflTransGen hc).mp hcx with rfl | hin
  · exact absurd hx Placed.IsIn.irrefl
  · exact absurd hx hin.asymm

theorem IsCarried.inner (h : e.IsCarried complexType) (he' : e' ∈ e.inner) :
    e'.IsCarried complexType := by
  rw [Enclosed.inner] at he'
  split at he'
  · exact absurd he' List.not_mem_nil
  obtain ⟨c, hc, rfl⟩ := List.mem_map.mp he'
  have hin : c.IsIn complexType := h.inside.tail hc
  refine ⟨hin, ?_, ?_⟩
  · intro x
    rw [mem_aroundInner_iff, h.mem_iff]
    constructor
    · rintro (⟨hname, hx, hex⟩ | ⟨rfl, hname⟩)
      · exact ⟨hname, hx, hex.tail hc⟩
      · exact ⟨hname, h.inside, Relation.TransGen.single hc⟩
    · rintro ⟨hname, hx, hcx⟩
      rcases (Placed.isIn_iff_of_holds h.inside.to_reflTransGen hx.to_reflTransGen hc).mp hcx with
        rfl | hex
      · exact Or.inr ⟨rfl, hname⟩
      · exact Or.inl ⟨hname, hx, hex⟩
  · show e.aroundInner.Pairwise _
    rw [aroundInner]
    split
    · rw [List.pairwise_append]
      refine ⟨h.nested, List.pairwise_singleton _ _, ?_⟩
      intro x hx y hy
      rw [List.mem_singleton.mp hy]
      exact ((h.mem_iff x).mp hx).2.2
    · exact h.nested

end Enclosed

theorem isCarried_of_mem_namedDeclarations {complexType : Placed} {d : Enclosed}
    (hd : d ∈ namedDeclarations complexType) : d.IsCarried complexType := by
  have hlisted := List.mem_of_mem_filter (List.mem_of_mem_filter hd)
  rw [Nesting.walk_eq_listing] at hlisted
  obtain ⟨start, hstart, hd⟩ := Nesting.mem_listing_iff.mp hlisted
  obtain ⟨c, hc, rfl⟩ := List.mem_map.mp hstart
  refine Nesting.preOrder_induction (P := fun e => e.IsCarried complexType) ?_
    (Enclosed.isCarried_child hc) d hd
  intro e he e' he'
  exact he.inner he'

/-! ## Facts -/

theorem addChoice_cases (choices : List (List Nat)) (d : Enclosed) :
    (∀ place, d.choicePlace? = some place → place ∈ choices) ∧ addChoice choices d = choices ∨
      ∃ place, d.choicePlace? = some place ∧ place ∉ choices ∧
        addChoice choices d = choices ++ [place] := by
  rw [addChoice]
  cases hplace : d.choicePlace? with
  | none => exact Or.inl ⟨by simp, rfl⟩
  | some place =>
    by_cases hmem : place ∈ choices
    · refine Or.inl ⟨?_, if_pos (List.contains_iff_mem.mpr hmem)⟩
      intro other hother
      rwa [← Option.some.inj hother]
    · exact Or.inr ⟨place, rfl, hmem, if_neg (mt List.contains_iff_mem.mp hmem)⟩

theorem prefix_addChoice (choices : List (List Nat)) (d : Enclosed) :
    choices <+: addChoice choices d := by
  rcases addChoice_cases choices d with ⟨-, h⟩ | ⟨place, -, -, h⟩
  · exact ⟨[], (List.append_nil choices).trans h.symm⟩
  · exact ⟨[place], h.symm⟩

theorem prefix_foldl_addChoice (ds : List Enclosed) (choices : List (List Nat)) :
    choices <+: ds.foldl addChoice choices := by
  induction ds generalizing choices with
  | nil => exact List.prefix_rfl
  | cons d rest ih => exact (prefix_addChoice choices d).trans (ih _)

theorem mem_addChoice (choices : List (List Nat)) {d : Enclosed} {place : List Nat}
    (h : d.choicePlace? = some place) : place ∈ addChoice choices d := by
  rcases addChoice_cases choices d with ⟨hold, heq⟩ | ⟨other, hother, -, heq⟩ <;> rw [heq]
  · exact hold place h
  · rw [h] at hother
    rw [Option.some.inj hother]
    exact List.mem_append_right _ List.mem_cons_self

/-- Choices that are met later do not change the fact of a declaration. -/
theorem fact_eq_of_prefix (className : String) {choices more : List (List Nat)} {d : Enclosed}
    (hmet : ∀ place, d.choicePlace? = some place → place ∈ choices) (h : choices <+: more) :
    d.fact className choices = d.fact className more := by
  obtain ⟨new, rfl⟩ := h
  rw [Enclosed.fact, Enclosed.fact]
  cases hplace : d.choicePlace? with
  | none => rfl
  | some place =>
    have hindex : (choices ++ new).idxOf place = choices.idxOf place :=
      List.idxOf_append_of_mem (hmet place hplace)
    simp only [hindex]

/-- The places of the choices of a complex type, in the order of their numbers. -/
def choicesOf (complexType : Placed) : List (List Nat) :=
  (namedDeclarations complexType).foldl addChoice []

theorem factsFrom_eq (className : String) (choices : List (List Nat)) (ds : List Enclosed) :
    factsFrom className choices ds =
      (ds.filter fun d => d.name?.isSome).map fun d => (d.name?.getD "",
        d.fact className ((ds.filter fun d => d.name?.isSome).foldl addChoice choices)) := by
  induction ds generalizing choices with
  | nil => rfl
  | cons d rest ih =>
    rw [factsFrom]
    cases hname : d.name? with
    | none => rw [List.filter_cons_of_neg (by simp [hname]), ← ih]
    | some name =>
      have hfact := fact_eq_of_prefix className (fun _ => mem_addChoice choices)
        (prefix_foldl_addChoice (rest.filter fun d => d.name?.isSome) (addChoice choices d))
      rw [List.filter_cons_of_pos (by simp [hname]), List.foldl_cons, List.map_cons, ← ih, ← hfact,
        hname]
      rfl

theorem factsOf_eq (complexType : Placed) (className : String) :
    factsOf complexType className =
      (namedDeclarations complexType).map fun d =>
        (d.name?.getD "", d.fact className (choicesOf complexType)) :=
  factsFrom_eq className [] (declarationsOf complexType)

end SchemaModels

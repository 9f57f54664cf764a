/-
Declarations in document order.

Both walks keep a stack, enter elements of different names, and go by the order of the document.  The
facts of a complex type describe its declarations one by one, and a nested class is declared by the
first element that fits.
-/
import Mathlib.Data.Option.Defs
import SchemaModels.Facts.Location
import SchemaModels.Proofs.Facts.Declaration

namespace SchemaModels

open Xml (Placed)
open Xml.Placed (Reaches)

/-! ## What a fact says about its declaration -/

/-- The base of the simple type inside an element. -/
def inlineBase? (d : Placed) : Option String := do
  let simpleType ← d.child? "simpleType"
  let restriction ← simpleType.child? "restriction"
  restriction.attr? "base"

/-- An entry has the name and the type of a declaration without their prefixes: the name that is
given or referred to, and the type that is given or else the base of the simple type inside. -/
structure Describes (d : Placed) (entry : String × Fact) : Prop where
  name : Option.Rel IsLocalPart (d.attr? "name" <|> d.attr? "ref") (some entry.1)
  type : Option.Rel IsLocalPart (d.attr? "type" <|> inlineBase? d) entry.2.type

theorem rel_withoutPrefix (name? : Option String) :
    Option.Rel IsLocalPart name? (name?.map withoutPrefix) := by
  cases name? with
  | none => exact Option.Rel.none
  | some name => exact Option.Rel.some (isLocalPart_withoutPrefix name)

theorem Enclosed.type?_eq (d : Enclosed) :
    d.type? = (d.node.attr? "type" <|> inlineBase? d.node).map withoutPrefix := by
  rw [Enclosed.type?, inlineBase?]
  cases d.node.attr? "type" with
  | some type => rfl
  | none =>
    cases d.node.child? "simpleType" with
    | none => rfl
    | some simpleType =>
      cases hrestriction : simpleType.child? "restriction" with
      | none => simp [hrestriction]
      | some restriction => cases hbase : restriction.attr? "base" <;> simp [hrestriction, hbase]

theorem describes_fact {d : Enclosed} (hd : d.name?.isSome = true) (className : String)
    (choices : List (List Nat)) :
    Describes d.node (d.name?.getD "", d.fact className choices) := by
  constructor
  case name =>
    have hname : some (d.name?.getD "") = d.name? := by
      obtain ⟨name, hname⟩ := Option.isSome_iff_exists.mp hd
      rw [hname, Option.getD_some]
    show Option.Rel IsLocalPart _ (some (d.name?.getD ""))
    rw [hname]
    exact rel_withoutPrefix _
  case type =>
    have htype : (d.fact className choices).type = d.type? := by
      rw [Enclosed.fact]
      cases d.choicePlace? <;> rfl
    show Option.Rel IsLocalPart _ (d.fact className choices).type
    rw [htype, d.type?_eq]
    exact rel_withoutPrefix _

theorem forall₂_describes (complexType : Placed) (className : String) :
    List.Forall₂ Describes ((namedDeclarations complexType).map Enclosed.node)
      (factsOf complexType className) := by
  rw [factsOf_eq, List.forall₂_map_left_iff, List.forall₂_map_right_iff, List.forall₂_same]
  intro d hd
  exact describes_fact (List.mem_filter.mp hd).2 className _

/-! ## Nested classes -/

/-- An element that declares a class of the given name inside a scope. -/
structure DeclaresClass (scope : Placed) (name : String) (e : Placed) : Prop where
  reached : Reaches scopeNames scope e
  isElement : e.name = "element"
  named : e.attr? "name" = some name
  typed : ∃ c ∈ e.children, c.name = "complexType"

theorem nestedIn?_eq_some_iff {name : String} {e : Placed} {found : Located} :
    nestedIn? name e = some found ↔
      e.name = "element" ∧ e.attr? "name" = some name ∧ found.element = some e ∧
        e.child? "complexType" = some found.complexType := by
  rw [nestedIn?, anonymous?]
  by_cases helement : e.name = "element"
  case neg => simp [helement]
  by_cases hname : e.attr? "name" = some name
  case neg => simp [hname]
  rw [if_pos helement, if_pos hname, Option.map_eq_some_iff]
  constructor
  · rintro ⟨complexType, htype, rfl⟩
    exact ⟨helement, hname, rfl, htype⟩
  · rintro ⟨-, -, hsome, htype⟩
    exact ⟨found.complexType, htype, Located.ext rfl hsome.symm⟩

theorem isSome_nestedIn?_iff {name : String} {e : Placed} :
    (nestedIn? name e).isSome = true ↔
      e.name = "element" ∧ e.attr? "name" = some name ∧
        ∃ c ∈ e.children, c.name = "complexType" := by
  have hchild : (e.child? "complexType").isSome = true ↔
      ∃ c ∈ e.children, c.name = "complexType" := by
    rw [Placed.child?, List.find?_isSome]
    simp
  rw [← hchild, Option.isSome_iff_exists, Option.isSome_iff_exists]
  constructor
  · rintro ⟨found, hfound⟩
    obtain ⟨helement, hname, -, htype⟩ := nestedIn?_eq_some_iff.mp hfound
    exact ⟨helement, hname, found.complexType, htype⟩
  · rintro ⟨helement, hname, complexType, htype⟩
    exact ⟨⟨complexType, some e⟩, nestedIn?_eq_some_iff.mpr ⟨helement, hname, rfl, htype⟩⟩

theorem declaresClass_iff {scope e : Placed} {name : String} :
    DeclaresClass scope name e ↔
      e ∈ (Placed.outside scopeNames).listing scope.children ∧
        (nestedIn? name e).isSome = true := by
  rw [Placed.mem_listing_outside_iff, isSome_nestedIn?_iff]
  constructor
  · intro h
    exact ⟨h.reached, h.isElement, h.named, h.typed⟩
  · rintro ⟨hreached, helement, hname, htype⟩
    exact ⟨hreached, helement, hname, htype⟩

/-- What is found for a nested class: the first element in document order that declares it, with its
complex type. -/
structure IsFirstDeclaration (scope : Placed) (name : String) (e : Placed) (found : Located) :
    Prop where
  declares : DeclaresClass scope name e
  first : ∀ e', DeclaresClass scope name e' → e' = e ∨ e.place < e'.place
  element_eq : found.element = some e
  complexType_eq : e.child? "complexType" = some found.complexType

theorem nested?_eq_none_iff {scope : Placed} {name : String} :
    nested? scope name = none ↔ ∀ e, ¬ DeclaresClass scope name e := by
  rw [nested?, Nesting.walk_eq_listing, List.findSome?_eq_none_iff]
  refine forall_congr' fun e => ?_
  rw [declaresClass_iff, not_and, Option.not_isSome_iff_eq_none]

theorem exists_first_of_nested? {scope : Placed} {name : String} {found : Located}
    (h : nested? scope name = some found) : ∃ e, IsFirstDeclaration scope name e found := by
  rw [nested?, Nesting.walk_eq_listing] at h
  obtain ⟨before, e, after, hsplit, hfound, hnone⟩ := List.findSome?_eq_some_iff.mp h
  obtain ⟨-, -, helement, htype⟩ := nestedIn?_eq_some_iff.mp hfound
  have horder := Placed.pairwise_listing_outside scopeNames scope
  have hdeclares : DeclaresClass scope name e := by
    rw [declaresClass_iff, hsplit, hfound]
    exact ⟨by simp, rfl⟩
  refine ⟨e, hdeclares, ?_, helement, htype⟩
  intro e' he'
  obtain ⟨hlisted, hsome⟩ := declaresClass_iff.mp he'
  rw [hsplit] at hlisted horder
  obtain ⟨-, hafter, -⟩ := List.pairwise_append.mp horder
  rcases List.mem_append.mp hlisted with hbefore | hrest
  · rw [hnone e' hbefore] at hsome
    exact absurd hsome (by decide)
  rcases List.mem_cons.mp hrest with rfl | hlater
  · exact Or.inl rfl
  · exact Or.inr (List.rel_of_pairwise_cons hafter hlater)

theorem nested?_eq_some_iff {scope : Placed} {name : String} {found : Located} :
    nested? scope name = some found ↔ ∃ e, IsFirstDeclaration scope name e found := by
  constructor
  · exact exists_first_of_nested?
  rintro ⟨e, he⟩
  cases hnested : nested? scope name with
  | none => exact absurd he.declares (nested?_eq_none_iff.mp hnested e)
  | some other =>
    obtain ⟨e', he'⟩ := exists_first_of_nested? hnested
    have heq : e' = e := by
      rcases he.first e' he'.declares with h | h
      · exact h
      rcases he'.first e he.declares with h' | h'
      · exact h'.symm
      · exact absurd h' (List.lt_asymm h)
    subst heq
    have htype : other.complexType = found.complexType :=
      Option.some.inj (he'.complexType_eq.symm.trans he.complexType_eq)
    have helement : other.element = found.element := he'.element_eq.trans he.element_eq.symm
    rw [Located.ext htype helement]

/-- The facts of a complex type describe, one by one and in document order, the elements and
attributes with a name that are reached without passing through a closed element; and a nested class
is found just if it is declared in its scope, by the first element that does. -/
theorem walks_in_document_order (complexType : Placed) (className name : String) :
    (∃ ds, AreDeclarations complexType ds ∧
      List.Forall₂ Describes ds (factsOf complexType className)) ∧
    (∀ found, nested? complexType name = some found ↔
      ∃ e, IsFirstDeclaration complexType name e found) ∧
    (nested? complexType name = none ↔ ∀ e, ¬ DeclaresClass complexType name e) := by
  refine ⟨⟨(namedDeclarations complexType).map Enclosed.node, ?_, ?_⟩, ?_, ?_⟩
  · exact areDeclarations_namedDeclarations complexType
  · exact forall₂_describes complexType className
  · intro found
    exact nested?_eq_some_iff
  · exact nested?_eq_none_iff

/-- What groups declarations is entered, and is optional for all that stands in it; what declares
something, other types and annotations are not entered. -/
example :
    let declare := fun name => Xml.Element.node "element" [("name", name)] "" []
    factsOf ⟨[], .node "complexType" [] ""
      [.node "annotation" [] "" [declare "note"],
       .node "sequence" [("minOccurs", "0")] ""
         [declare "a", .node "choice" [] "" [declare "b", .node "all" [] "" [declare "c"]]],
       .node "all" [("minOccurs", "0")] ""
         [.node "choice" [] "" [.node "element" [("ref", "x:d")] "" [declare "inner"]]],
       .node "complexType" [] "" [declare "other"],
       .node "choice" [] "" [declare "e"],
       .node "attribute" [("name", "f")] "" []]⟩ "Doc" =
    [("a", {}), ("b", { choice := some "doc" }), ("c", { choice := some "doc" }),
     ("d", { choice := some "doc2" }), ("e", { choice := some "doc3", choiceRequired := true }),
     ("f", {})] := by
  decide +kernel

end SchemaModels

/-
Every list field has its key, and every key has its list field.

Keys are gathered before any module is written; list fields are mapped while their class is written.
Both find the item of a list by `listTarget` and by the same reference, and both leave out what is
skipped.  So the keys of an item are the ones that list fields name, each leading back to the entry
of the occurrence that has the list.
-/
import SchemaModels.Proofs.Context
import SchemaModels.Proofs.Mapper

namespace SchemaModels
namespace Context

variable {m : Model} {ctx : Context}

/-- A class on one of the ways to it from a package or module, if it is written as a model. -/
structure IsModel (ctx : Context) (m : Model) (o : Occurrence) (c : SchemaClass) : Prop where
  reached : ∃ roots ∈ m.scopes, o ∈ ctx.forest.occurrences roots
  class_eq : ctx.forest.get? o.id = some c
  isComplex : c.isComplex = true
  kept : ctx.isSkipped o = false

def IsListField (d : FieldDefinition) (child key : String) : Prop :=
  d.kind = .one2many ∧ d.positional = [.text child, .text key]

theorem Gathered.mem_get_inverses_iff (hctx : ctx.Gathered m) {child : String}
    {key : InverseKey} :
    key ∈ ctx.inverses.get child ↔ ∃ o c e, ctx.IsModel m o c ∧ ctx.names.get? o = some e ∧
      ∃ a ∈ c.attributes, ∃ target item,
        listTarget ctx.forest ctx.reach ctx.rules (ctx.parents o) a = some target ∧
        ctx.names.forReference target o.lineage = some item ∧ item.registryName = child ∧
        key = ⟨e.registryName, ctx.config.fieldNaming.inverseFieldName a.name c.name⟩ := by
  rw [hctx.inverses_eq, InverseSource.mem_get_collect]
  constructor
  · rintro ⟨o, ho, r, hr, hchild, hkey⟩
    obtain ⟨c, e, hc, he, hcomplex, hkept, a, ha, hreq⟩ := InverseSource.mem_requests_iff.mp hr
    obtain ⟨target, item, htarget, hitem, rfl⟩ := InverseSource.requestOf_eq_some_iff.mp hreq
    exact ⟨o, c, e, ⟨hctx.mem_occurrences_iff.mp ho, hc, hcomplex, hkept⟩, he, a, ha, target, item,
      htarget, hitem, hchild, hkey.symm⟩
  · rintro ⟨o, c, e, hmodel, he, a, ha, target, item, htarget, hitem, hchild, hkey⟩
    have hr : ctx.inverseSource.requestOf o e c a =
        some ⟨item.registryName, key, c.name, a.name⟩ :=
      InverseSource.requestOf_eq_some_iff.mpr ⟨target, item, htarget, hitem, hkey ▸ rfl⟩
    have hmem : _ ∈ ctx.inverseSource.requests o := InverseSource.mem_requests_iff.mpr
      ⟨c, e, hmodel.class_eq, he, hmodel.isComplex, hmodel.kept, a, ha, hr⟩
    exact ⟨o, hctx.mem_occurrences_iff.mpr hmodel.reached, _, hmem, hchild, rfl⟩

/-- The field of a list names the child and the key through which it leads back, whatever labels
are used, and a list field is made of nothing else. -/
theorem exists_isListField_iff {o : Occurrence} {c : SchemaClass} {a : Attribute}
    {used : List String} {child key : String} :
    (∃ d, ((Mapper.mk ctx o c).map used a).1 = .field d ∧ IsListField d child key) ↔
      ∃ target item,
        listTarget ctx.forest ctx.reach ctx.rules (ctx.parents o) a = some target ∧
        ctx.names.forReference target o.lineage = some item ∧ item.registryName = child ∧
        key = ctx.config.fieldNaming.inverseFieldName a.name c.name := by
  constructor
  · rintro ⟨d, hd, hkind, hpos⟩
    obtain ⟨target, item, htarget, hitem, hpos'⟩ := Mapper.map_one2many hd hkind
    rw [hpos] at hpos'
    injection hpos' with hchild hrest
    injection hrest with hkey
    exact ⟨target, item, htarget, hitem, (Literal.text.inj hchild).symm, Literal.text.inj hkey⟩
  · rintro ⟨target, item, htarget, hitem, rfl, rfl⟩
    obtain ⟨d, hd, hkind, hpos⟩ :=
      Mapper.exists_map_one2many (m := Mapper.mk ctx o c) htarget hitem used
    exact ⟨d, hd, hkind, hpos⟩

/-- An order with the list of its lines, which are declared inside it. -/
def orderBundle : Bundle where
  classes :=
    [.node
      { qname := "Order", name := "Order",
        attributes := [{ name := "lines", maxOccurs := .unbounded, types := [.named "Line"] }] }
      [.node { qname := "Line", name := "Line" } []]]

end Context
end SchemaModels

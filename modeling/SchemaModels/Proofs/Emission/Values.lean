/-
Which values a selection constant offers.

The items of an enumeration are filtered twice: by the set of the values that differ in more than
case from all before them, which does not say where a value stands, and by the set of the values
written so far.  Together the two keep, of the declared values that differ in case only, the first
one, however the others are spread behind it.
-/
import SchemaModels.Proofs.Emission.ConstantNames

namespace SchemaModels

/-- Of the declared values that differ in case only, the constant offers the first one, with the
label of its declaration. -/
structure EnumBlock.OffersFirst (block : EnumBlock) (declared : List SelectionItem) : Prop where
  values : block.items.map Prod.fst = FirstMet.firsts lowerText (declared.map (·.value))
  apart : (block.items.map Prod.fst).Pairwise fun value other => lowerText value ≠ lowerText other
  covers : ∀ item ∈ declared, ∃ value ∈ block.items.map Prod.fst,
    lowerText value = lowerText item.value
  labels : ∀ value label, (value, label) ∈ block.items →
    declared.find? (fun item => lowerText item.value = lowerText value) = some ⟨value, label⟩

theorem EnumDoc.distinct_eq_unmet (doc : EnumDoc) :
    doc.distinct = FirstMet.unmet (fun item => lowerText item.value) [] doc.items :=
  FirstMet.unmet_filter_unmet lowerText doc.items

theorem EnumDoc.map_value_distinct (doc : EnumDoc) :
    doc.distinct.map (·.value) = distinctValues (doc.items.map (·.value)) := by
  rw [distinct_eq_unmet, distinctValues]
  exact FirstMet.map_unmet SelectionItem.value [] doc.items

namespace Context

variable {ctx : Context}

theorem map_value_enumDoc (id : Nat) (c : SchemaClass) :
    (ctx.enumDoc id c).items.map (·.value) = c.values.map (·.value) := by
  rw [enumDoc]
  split
  · exact List.map_map
  · exact List.map_map

theorem map_fst_enumBlock (e : RegistryEntry) (c : SchemaClass) :
    (ctx.enumBlock e c).items.map Prod.fst =
      distinctValues ((ctx.enumDoc e.id c).items.map (·.value)) := by
  rw [← EnumDoc.map_value_distinct]
  exact List.map_map

theorem offersFirst_enumBlock (e : RegistryEntry) (c : SchemaClass) :
    (ctx.enumBlock e c).OffersFirst (ctx.enumDoc e.id c).items where
  values := by
    rw [map_fst_enumBlock, distinctValues, FirstMet.unmet_eq_firsts]
  apart := by
    rw [map_fst_enumBlock, distinctValues]
    exact FirstMet.pairwise_unmet _
  covers := by
    intro item hitem
    rw [map_fst_enumBlock, distinctValues]
    exact FirstMet.exists_mem_unmet (List.mem_map.mpr ⟨item, hitem, rfl⟩)
  labels := by
    intro value label hmem
    obtain ⟨item, hitem, hpair⟩ := List.mem_map.mp hmem
    obtain ⟨rfl, rfl⟩ := Prod.mk.inj hpair
    rw [EnumDoc.distinct_eq_unmet] at hitem
    exact FirstMet.find?_of_mem_unmet hitem

/-- A constant that a module writes is that of an enumeration it keeps, and offers each value that
this declares in the spelling that was declared first. -/
theorem enums_offer_first {module : String} {roots : List Nat} {source : ModuleSource}
    (hemit : ctx.emit module roots = some source) :
    ∀ block ∈ source.enums, ∃ o ∈ ctx.keptEnums roots, ∃ e c,
      ctx.names.get? o = some e ∧ ctx.forest.get? o.id = some c ∧
      block.constant = ctx.constantName e ∧
      (ctx.enumDoc o.id c).items.map (·.value) = c.values.map (·.value) ∧
      block.OffersFirst (ctx.enumDoc o.id c).items := by
  intro block hblock
  rw [(emit_eq_some hemit).2.1] at hblock
  obtain ⟨e, he, c, hc, rfl⟩ := exists_entry_of_mem_enumBlocks hblock
  obtain ⟨o, ho, hoe⟩ := mem_entriesOf_iff.mp he
  have hid : e.id = o.id := congrArg Prod.fst (Registry.get?_eq_some hoe).2
  refine ⟨o, ho, e, c, hoe, hid ▸ hc, rfl, map_value_enumDoc o.id c, ?_⟩
  rw [← hid]
  exact offersFirst_enumBlock e c

/-- Two countries, declared in several spellings with labels of their own. -/
def countryBundle : Bundle where
  classes :=
    [.node
      { qname := "Country", name := "Country", kind := .enumeration,
        values := [⟨"Brasil", some "Brazil"⟩, ⟨"BRASIL", some "Brazil again"⟩,
          ⟨"Argentina", some "The Argentine"⟩, ⟨"brasil", none⟩,
          ⟨"Argentina", some "Repeated"⟩, ⟨"Brasil", some "Late"⟩] } []]

/-- Each country is offered in its first spelling, and no value is that of another. -/
theorem countries_in_first_spelling :
    ∃ m ctx source, countryBundle.model = .ok m ∧
      collect m {} (fun _ => none) = .ok ctx ∧ ctx.emit "models" [0] = some source ∧
      source.enums.map (fun block => (block.constant, block.items)) =
        [("COUNTRY", [("Brasil", "Brazil"), ("Argentina", "The Argentine")])] ∧
      ∀ block ∈ source.enums, ∃ o ∈ ctx.keptEnums [0], ∃ c, ctx.forest.get? o.id = some c ∧
        block.OffersFirst (ctx.enumDoc o.id c).items := by
  obtain ⟨m, ctx, hm, hctx, hcheck⟩ := exists_collect countryBundle {} (fun _ => none)
    (fun _ ctx => ∃ source ∈ ctx.emit "models" [0],
      source.enums.map (fun block => (block.constant, block.items)) =
        [("COUNTRY", [("Brasil", "Brazil"), ("Argentina", "The Argentine")])])
    (by decide +kernel)
  obtain ⟨source, hemit, hblocks⟩ := of_decide_eq_true hcheck
  refine ⟨m, ctx, source, hm, hctx, hemit, hblocks, fun block hblock => ?_⟩
  obtain ⟨o, ho, e, c, -, hc, -, -, hoffers⟩ := enums_offer_first hemit block hblock
  exact ⟨o, ho, c, hc, hoffers⟩

end Context
end SchemaModels

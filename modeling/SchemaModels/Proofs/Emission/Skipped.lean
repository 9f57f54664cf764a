/-
What is skipped leaves no trace.

Skipping is decided three times: for the class itself and what encloses it, when a module is written,
and when the keys of lists are gathered.  All three look at the whole lineage, so what is nested in a
skipped class is skipped too.  An entry belongs to one occurrence, whatever roots that is reached from,
so no kept occurrence writes anything under the entry of a skipped one: `not_generated_of_skipped`.
-/
import SchemaModels.Proofs.Emission.ConstantNames
import SchemaModels.Proofs.Skip

namespace SchemaModels
namespace Context

variable {m : Model} {ctx : Context}

/-- Nothing is generated for an entry. -/
structure NotGenerated (ctx : Context) (e : RegistryEntry) : Prop where
  /-- No module has a model under its registry name. -/
  models : ∀ module roots source, ctx.emit module roots = some source →
    e.registryName ∉ source.models.map (·.registryName)
  /-- The constants of a module are all defined for other entries. -/
  constants : ∀ module roots source, ctx.emit module roots = some source →
    ∀ block ∈ source.enums, ∃ d ∈ ctx.enumEntries roots, d ≠ e ∧
      ∃ c, ctx.forest.get? d.id = some c ∧ block = ctx.enumBlock d c
  /-- Its model owns no list that others have keys for. -/
  keys : ∀ key ∈ ctx.inverses.keys, key.parent ≠ e.registryName

theorem isSkipped_of_prefix {o o' : Occurrence} (h : o.lineage <+: o'.lineage)
    (hskip : ctx.isSkipped o = true) : ctx.isSkipped o' = true := by
  have hnames : ctx.parents o <+: ctx.parents o' := h.map ctx.forest.nameOf
  exact SkipRules.skipsLineage_of_prefix hnames hskip

theorem Gathered.eq_of_get?_eq (hctx : ctx.Gathered m) {roots roots' : List Nat}
    {o o' : Occurrence} {e : RegistryEntry} (ho : o ∈ ctx.forest.occurrences roots)
    (ho' : o' ∈ ctx.forest.occurrences roots') (he : ctx.names.get? o = some e)
    (he' : ctx.names.get? o' = some e) : o = o' := by
  have hsite : o.site = o'.site :=
    (Registry.get?_eq_some he).2.symm.trans (Registry.get?_eq_some he').2
  exact hctx.linked.eq_of_site_eq (Forest.isOccurrence_of_mem ho) (Forest.isOccurrence_of_mem ho')
    hsite

section

variable (hctx : ctx.Gathered m) {roots : List Nat} {o : Occurrence} {e : RegistryEntry}
  (ho : o ∈ ctx.forest.occurrences roots) (hskip : ctx.isSkipped o = true)
  (he : ctx.names.get? o = some e)
include hctx ho hskip he

theorem Gathered.isSkipped_of_get?_eq {roots' : List Nat} {o' : Occurrence}
    (ho' : o' ∈ ctx.forest.occurrences roots') (he' : ctx.names.get? o' = some e) :
    ctx.isSkipped o' = true := by
  rw [← hctx.eq_of_get?_eq ho ho' he he']
  exact hskip

theorem Gathered.not_mem_entriesOf_kept (roots' : List Nat) (p : Occurrence → Bool) :
    e ∉ ctx.entriesOf ((ctx.keptOf roots').filter p) := by
  intro hin
  obtain ⟨o', hkept, he'⟩ := mem_entriesOf_iff.mp hin
  obtain ⟨ho', hnot⟩ := mem_keptOf_iff.mp (List.mem_of_mem_filter hkept)
  rw [hctx.isSkipped_of_get?_eq ho hskip he ho' he'] at hnot
  exact absurd hnot (by decide)

theorem Gathered.parent_ne_of_mem_keys {key : InverseKey} (hkey : key ∈ ctx.inverses.keys) :
    key.parent ≠ e.registryName := by
  rw [hctx.inverses_eq] at hkey
  obtain ⟨o', ho', r, hr, rfl⟩ := InverseSource.mem_keys_collect.mp hkey
  obtain ⟨c, d, -, hd, -, hkept, a, -, hreq⟩ := InverseSource.mem_requests_iff.mp hr
  obtain ⟨target, item, -, -, rfl⟩ := InverseSource.requestOf_eq_some_iff.mp hreq
  obtain ⟨roots', -, ho'⟩ := hctx.mem_occurrences_iff.mp ho'
  intro hname
  obtain rfl : d = e := hctx.inStep.eq_of_registryName_eq (Registry.get?_eq_some hd).1
    (Registry.get?_eq_some he).1 hname
  have hskip' : ctx.rules.skipsLineage (ctx.parents o') = true :=
    hctx.isSkipped_of_get?_eq ho hskip he ho' hd
  have hkept' : ctx.rules.skipsLineage (ctx.parents o') = false := hkept
  rw [hskip'] at hkept'
  exact absurd hkept' (by decide)

theorem Gathered.notGenerated : ctx.NotGenerated e where
  models module roots' source hemit := by
    rw [(emit_eq_some hemit).2.2, map_registryName_modelBlocks]
    intro hin
    obtain ⟨d, hd, hname⟩ := List.mem_map.mp hin
    obtain rfl : d = e := hctx.inStep.eq_of_registryName_eq (mem_entries_of_mem_entriesOf hd)
      (Registry.get?_eq_some he).1 hname
    exact hctx.not_mem_entriesOf_kept ho hskip he roots' _ hd
  constants module roots' source hemit block hblock := by
    rw [(emit_eq_some hemit).2.1] at hblock
    obtain ⟨d, hd, c, hc, rfl⟩ := exists_entry_of_mem_enumBlocks hblock
    refine ⟨d, hd, ?_, c, hc, rfl⟩
    rintro rfl
    exact hctx.not_mem_entriesOf_kept ho hskip he roots' _ hd
  keys _ hkey := hctx.parent_ne_of_mem_keys ho hskip he hkey

end

/-- What is enclosed in a skipped class is skipped, and nothing is generated for the entry of what is
skipped: no model, no constant and no key to it as an owner. -/
theorem not_generated_of_skipped {b : Bundle} {m : Model} {config : Config}
    {texts : String → Option String} {ctx : Context} (hm : b.model = .ok m)
    (hctx : collect m config texts = .ok ctx) :
    (∀ o o' : Occurrence, o.lineage <+: o'.lineage →
      ctx.isSkipped o = true → ctx.isSkipped o' = true) ∧
    ∀ roots, ∀ o ∈ ctx.forest.occurrences roots, ctx.isSkipped o = true →
      ∀ e, ctx.names.get? o = some e → ctx.NotGenerated e := by
  have hg : ctx.Gathered m := (gathered_of_collect hm hctx).2
  refine ⟨fun o o' h hskip => isSkipped_of_prefix h hskip, ?_⟩
  intro roots o ho hskip e he
  exact hg.notGenerated ho hskip he

/-- A part with a list of leaves and a colour, declared inside a class and once more beside it. -/
def leavesBundle : Bundle where
  classes :=
    [.node { qname := "Outer", name := "Outer" }
      [.node
        { qname := "Outer.Part", name := "Part"
          attributes :=
            [{ name := "leaves", maxOccurs := .unbounded, types := [.named "Outer.Part.Leaf"] }] }
        [.node { qname := "Outer.Part.Leaf", name := "Leaf" } [],
         .node { qname := "Outer.Part.Colour", name := "Colour", kind := .enumeration } []]],
     .node
      { qname := "Part", name := "Part"
        attributes := [{ name := "leaves", maxOccurs := .unbounded, types := [.named "Leaf"] }] }
      [.node { qname := "Leaf", name := "Leaf" } [],
       .node { qname := "Colour", name := "Colour", kind := .enumeration } []]]

def leftOut : List Occurrence :=
  [⟨1, [0, 1], ["Outer", "Part"]⟩, ⟨2, [0, 1, 2], ["Outer", "Part", "Leaf"]⟩,
    ⟨3, [0, 1, 3], ["Outer", "Part", "Colour"]⟩]

/-- The part is left out for its place, and what it holds with it; the part beside it is generated
with all it has. -/
theorem nested_part_not_generated :
    ∃ m ctx source, leavesBundle.model = .ok m ∧
      collect m { skip := ["^Outer.Part$"] } (fun _ => none) = .ok ctx ∧
      ctx.emit "models" [0, 4] = some source ∧
      source.models.map (·.registryName) = ["spec.10.outer", "spec.10.part", "spec.10.part_leaf"] ∧
      source.enums.map (·.constant) = ["PART_COLOUR"] ∧
      ctx.inverses.keys = [⟨"spec.10.part", "spec10_leaves_Part_id"⟩] ∧
      ∀ o ∈ leftOut, ∃ e, ctx.names.get? o = some e ∧ ctx.NotGenerated e := by
  obtain ⟨m, ctx, hm, hctx, hcheck⟩ := exists_collect leavesBundle { skip := ["^Outer.Part$"] }
    (fun _ => none)
    (fun _ ctx =>
      (ctx.emit "models" [0, 4]).map (fun source =>
        (source.models.map (·.registryName), source.enums.map (·.constant))) =
          some (["spec.10.outer", "spec.10.part", "spec.10.part_leaf"], ["PART_COLOUR"]) ∧
      ctx.inverses.keys = [⟨"spec.10.part", "spec10_leaves_Part_id"⟩] ∧
      ctx.isSkipped ⟨1, [0, 1], ["Outer", "Part"]⟩ = true ∧
      ∀ o ∈ leftOut, o ∈ ctx.forest.occurrences [0, 4] ∧ (ctx.names.get? o).isSome = true)
    (by decide +kernel)
  obtain ⟨hsource, hkeys, hskip, hwithin⟩ := of_decide_eq_true hcheck
  obtain ⟨source, hemit, hblocks⟩ := Option.map_eq_some_iff.mp hsource
  obtain ⟨hmodels, henums⟩ := Prod.mk.inj hblocks
  obtain ⟨hbelow, hnone⟩ := not_generated_of_skipped hm hctx
  refine ⟨m, ctx, source, hm, hctx, hemit, hmodels, henums, hkeys, fun o ho => ?_⟩
  have hlineage : [0, 1] <+: o.lineage := by
    revert o
    decide
  obtain ⟨hreached, hentry⟩ := hwithin o ho
  obtain ⟨e, he⟩ := Option.isSome_iff_exists.mp hentry
  exact ⟨e, he, hnone _ o hreached (hbelow _ o hlineage hskip) e he⟩

end Context
end SchemaModels

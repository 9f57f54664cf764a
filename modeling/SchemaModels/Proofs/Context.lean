/-
What a context knows, and what it was gathered from.

`Gathered` lists the parts of a context as they were made, so that nothing after it opens the
gathering itself.  Each occurrence that a package or module reaches is among those of the context
and has an entry in the registry.
-/
import SchemaModels.Context
import SchemaModels.Proofs.Bundle
import SchemaModels.Proofs.Inverse.Table
import SchemaModels.Proofs.Registry.Filing

namespace SchemaModels

theorem Forest.Linked.mem_occurrencesOf_iff {f : Forest} (hf : f.Linked)
    {scopes : List (List Nat)} {o : Occurrence} :
    o ∈ f.occurrencesOf scopes ↔ ∃ roots ∈ scopes, o ∈ f.occurrences roots := by
  constructor
  · intro h
    exact List.mem_flatMap.mp (FirstMet.mem_of_mem_eraseDupsBy h)
  · rintro ⟨roots, hroots, ho⟩
    have hall : o ∈ scopes.flatMap f.occurrences := List.mem_flatMap.mpr ⟨roots, hroots, ho⟩
    have hkept : ∃ p ∈ f.occurrencesOf scopes, o = p ∨ o.same p = true :=
      FirstMet.exists_mem_eraseDupsBy hall
    obtain ⟨p, hp, hop⟩ := hkept
    obtain ⟨roots', -, hp'⟩ := List.mem_flatMap.mp (FirstMet.mem_of_mem_eraseDupsBy hp)
    have hisO := isOccurrence_of_mem ho
    have hisP := isOccurrence_of_mem hp'
    -- An occurrence that is alike has the same lineage too, so it is the occurrence itself.
    have heq : o = p := by
      rcases hop with hop | hop
      · exact hop
      · simp only [Occurrence.same, Bool.and_eq_true, beq_iff_eq] at hop
        exact hf.eq_of_site_eq hisO hisP ((hisO.site_eq_iff hisP).mpr hop)
    rw [heq]
    exact hp

namespace Context

/-- The parts of a context, as they were gathered from a model. -/
structure Gathered (m : Model) (ctx : Context) : Prop where
  linked : ctx.forest.Linked
  forest_eq : ctx.forest = m.merged ctx.config
  modules_eq : ctx.modules = m.modules
  reach_eq : ctx.reach = m.scopes.foldl (Reach.addFrom ctx.forest) {}
  names_eq : ctx.names =
    m.scopes.foldl (Registry.resolve ctx.forest) (.empty ctx.config.schema ctx.config.version)
  occurrences_eq : ctx.occurrences = ctx.forest.occurrencesOf m.scopes
  inverses_eq : ctx.inverses = ctx.inverseSource.collect {} ctx.occurrences
  homes_eq : ctx.homes = ctx.forest.homesOf ctx.modules

theorem gathered_of_collect {b : Bundle} {m : Model} {config : Config}
    {texts : String → Option String} {ctx : Context} (hm : b.model = .ok m)
    (h : collect m config texts = .ok ctx) : ctx.config = config ∧ ctx.Gathered m := by
  obtain ⟨rules, -, h⟩ := exists_ok_of_bind h
  obtain ⟨numeric, -, h⟩ := exists_ok_of_bind h
  obtain rfl := Except.ok.inj h
  exact ⟨rfl, (Bundle.linked_of_model hm).mapAttributes _, rfl, rfl, rfl, rfl, rfl, rfl, rfl⟩

/-- Each class of a context is the one that its qualified name leads to. -/
theorem resolve_of_get? {b : Bundle} {m : Model} {config : Config}
    {texts : String → Option String} {ctx : Context} (hm : b.model = .ok m)
    (h : collect m config texts = .ok ctx) {id : Nat} {c : SchemaClass}
    (hc : ctx.forest.get? id = some c) : ctx.forest.resolve c.qname = some c := by
  have hforest := (gathered_of_collect hm h).2.forest_eq
  have hlookup : ctx.forest.lookup c.qname = some id := by
    rw [hforest, Model.merged, Forest.merge, Forest.get?_mapAttributes,
      Option.map_eq_some_iff] at hc
    obtain ⟨d, hd, rfl⟩ := hc
    rw [hforest]
    exact ((Bundle.holds_of_model hm).lookup_iff d.qname id).mpr ⟨d, hd, rfl⟩
  rw [Forest.resolve, hlookup]
  exact hc

/-- A context of a given bundle and what is checked of it, both found by evaluation. -/
theorem exists_collect (b : Bundle) (config : Config) (texts : String → Option String)
    (check : Model → Context → Bool)
    (h : (b.model.toOption.any fun m =>
      (collect m config texts).toOption.any (check m)) = true) :
    ∃ m ctx, b.model = .ok m ∧ collect m config texts = .ok ctx ∧ check m ctx = true := by
  obtain ⟨m, hm, hcheck⟩ := b.exists_model _ h
  cases hctx : collect m config texts with
  | error e =>
    rw [hctx] at hcheck
    exact absurd hcheck (by simp [Except.toOption])
  | ok ctx =>
    rw [hctx] at hcheck
    exact ⟨m, ctx, hm, hctx, hcheck⟩

variable {m : Model} {ctx : Context}

theorem Gathered.size_eq (hctx : ctx.Gathered m) : ctx.forest.size = m.forest.size := by
  rw [hctx.forest_eq]
  exact Array.size_map

theorem Gathered.mem_occurrences_iff (hctx : ctx.Gathered m) {o : Occurrence} :
    o ∈ ctx.occurrences ↔ ∃ roots ∈ m.scopes, o ∈ ctx.forest.occurrences roots := by
  rw [hctx.occurrences_eq]
  exact hctx.linked.mem_occurrencesOf_iff

theorem Gathered.mem_occurrences_of_module (hctx : ctx.Gathered m) {module : String}
    {roots : List Nat} (hmodule : (module, roots) ∈ ctx.modules) {o : Occurrence}
    (ho : o ∈ ctx.forest.occurrences roots) : o ∈ ctx.occurrences := by
  rw [hctx.modules_eq] at hmodule
  refine hctx.mem_occurrences_iff.mpr ⟨roots, ?_, ho⟩
  exact List.mem_map.mpr ⟨(module, roots), List.mem_append_right _ hmodule, rfl⟩

theorem Gathered.exists_entry (hctx : ctx.Gathered m) {o : Occurrence}
    (ho : o ∈ ctx.occurrences) : ∃ e, ctx.names.get? o = some e := by
  obtain ⟨roots, hroots, ho⟩ := hctx.mem_occurrences_iff.mp ho
  rw [hctx.names_eq]
  exact Registry.exists_get?_foldl_resolve hroots ho

theorem Gathered.exists_enclosing (hctx : ctx.Gathered m) {e : RegistryEntry}
    (he : e ∈ ctx.names.entries) : ∃ enclosing, e.lineage = enclosing ++ [e.id] := by
  rw [hctx.names_eq] at he
  obtain ⟨roots, -, o, ho, hsite, hlineage⟩ := Registry.exists_occurrence_of_mem_entries e he
  obtain ⟨enclosing, h⟩ := Forest.exists_enclosing ho
  have hid : e.id = o.id := congrArg Prod.fst hsite
  exact ⟨enclosing, by rw [hlineage, h, hid]⟩

theorem Gathered.inStep (hctx : ctx.Gathered m) : ctx.names.InStep := by
  rw [hctx.names_eq]
  exact (Registry.inStep_empty _ _).foldl_resolve _ _

end Context
end SchemaModels

/-
What a module keeps has entries, and its blocks are named after them.

Every occurrence that is reached from a module has an entry of its own.  The models of a module are
those of its kept occurrences in order, each called after its entry.  The constants are those of its
kept enumerations as well, unless two of these have one constant: then the second block is missing.
-/
import SchemaModels.Proofs.Emission
import SchemaModels.Proofs.Registry.UniquePath

namespace SchemaModels

namespace Context

def entriesOf (ctx : Context) (occurrences : List Occurrence) : List RegistryEntry :=
  occurrences.filterMap ctx.names.get?

def enumEntries (ctx : Context) (roots : List Nat) : List RegistryEntry :=
  ctx.entriesOf (ctx.keptEnums roots)

def modelEntries (ctx : Context) (roots : List Nat) : List RegistryEntry :=
  ctx.entriesOf (ctx.keptModels roots)

variable {m : Model} {ctx : Context}

/-! ## Entries of occurrences -/

theorem mem_entriesOf_iff {occurrences : List Occurrence} {e : RegistryEntry} :
    e ∈ ctx.entriesOf occurrences ↔ ∃ o ∈ occurrences, ctx.names.get? o = some e :=
  List.mem_filterMap

theorem mem_entries_of_mem_entriesOf {occurrences : List Occurrence} {e : RegistryEntry}
    (he : e ∈ ctx.entriesOf occurrences) : e ∈ ctx.names.entries := by
  obtain ⟨o, -, hoe⟩ := mem_entriesOf_iff.mp he
  exact (Registry.get?_eq_some hoe).1

theorem Gathered.map_site_entriesOf (hctx : ctx.Gathered m) {occurrences : List Occurrence}
    (h : ∀ o ∈ occurrences, o ∈ ctx.occurrences) :
    (ctx.entriesOf occurrences).map RegistryEntry.site = occurrences.map Occurrence.site := by
  induction occurrences with
  | nil => rfl
  | cons o rest ih =>
    obtain ⟨e, he⟩ := hctx.exists_entry (h o List.mem_cons_self)
    have hrest := ih fun p hp => h p (List.mem_cons_of_mem o hp)
    rw [entriesOf, List.filterMap_cons, he]
    exact congrArg₂ List.cons (Registry.get?_eq_some he).2 hrest

theorem Gathered.nodup_entriesOf (hctx : ctx.Gathered m) {occurrences : List Occurrence}
    (h : ∀ o ∈ occurrences, o ∈ ctx.occurrences) (hnodup : occurrences.Nodup) :
    (ctx.entriesOf occurrences).Nodup := by
  refine List.Nodup.of_map RegistryEntry.site ?_
  rw [hctx.map_site_entriesOf h]
  refine List.Nodup.map_on (fun o ho p hp hsite => ?_) hnodup
  obtain ⟨roots, -, ho⟩ := hctx.mem_occurrences_iff.mp (h o ho)
  obtain ⟨roots', -, hp⟩ := hctx.mem_occurrences_iff.mp (h p hp)
  exact hctx.linked.eq_of_site_eq (Forest.isOccurrence_of_mem ho) (Forest.isOccurrence_of_mem hp)
    hsite

section

variable (hctx : ctx.Gathered m) {module : String} {roots : List Nat}
  (hmodule : (module, roots) ∈ ctx.modules)
include hctx hmodule

theorem Gathered.mem_occurrences_of_kept {p : Occurrence → Bool} {o : Occurrence}
    (ho : o ∈ (ctx.keptOf roots).filter p) : o ∈ ctx.occurrences :=
  hctx.mem_occurrences_of_module hmodule (mem_keptOf_iff.mp (List.mem_of_mem_filter ho)).1

theorem Gathered.map_site_keptEntries (p : Occurrence → Bool) :
    (ctx.entriesOf ((ctx.keptOf roots).filter p)).map RegistryEntry.site =
      ((ctx.keptOf roots).filter p).map Occurrence.site :=
  hctx.map_site_entriesOf fun _ ho => hctx.mem_occurrences_of_kept hmodule ho

theorem Gathered.nodup_keptEntries (p : Occurrence → Bool) :
    (ctx.entriesOf ((ctx.keptOf roots).filter p)).Nodup := by
  have hnodup : ((ctx.keptOf roots).filter p).Nodup :=
    ((ctx.forest.nodup_occurrences roots).filter _).filter _
  exact hctx.nodup_entriesOf (fun _ ho => hctx.mem_occurrences_of_kept hmodule ho) hnodup

end

theorem Gathered.eq_of_slugify_eq (hctx : ctx.Gathered m) {d e : RegistryEntry}
    (hd : d ∈ ctx.names.entries) (he : e ∈ ctx.names.entries)
    (h : slugify d.uniquePath = slugify e.uniquePath) : d = e := by
  refine hctx.inStep.eq_of_registryName_eq hd he ?_
  rw [hctx.inStep.registryName_eq d hd, hctx.inStep.registryName_eq e he, Registry.nameOf,
    Registry.nameOf, h]

theorem Gathered.madeOf_uniquePath (hctx : ctx.Gathered m) {e : RegistryEntry}
    (he : e ∈ ctx.names.entries) :
    Registry.MadeOf (e.lineage.map ctx.forest.pathName) e.uniquePath := by
  rw [hctx.names_eq] at he
  exact Registry.madeOf_uniquePath e he

/-! ## Blocks -/

theorem exists_class_of_mem_keptOf {roots : List Nat} {o : Occurrence}
    (ho : o ∈ ctx.keptOf roots) : ∃ c, ctx.forest.get? o.id = some c :=
  (Forest.isOccurrence_of_mem (mem_keptOf_iff.mp ho).1).exists_get?

theorem map_modelBlocks {α : Type} {ofBlock : ModelBlock → α} {ofEntry : RegistryEntry → α}
    (h : ∀ o e c, ctx.names.get? o = some e → ctx.forest.get? o.id = some c →
      (ctx.modelBlock? o).map ofBlock = some (ofEntry e)) (roots : List Nat) :
    (ctx.modelBlocks roots).map ofBlock = (ctx.modelEntries roots).map ofEntry := by
  rw [modelBlocks, modelEntries, entriesOf, List.map_filterMap, List.map_filterMap]
  refine List.filterMap_congr fun o ho => ?_
  obtain ⟨c, hc⟩ := exists_class_of_mem_keptOf (List.mem_of_mem_filter ho)
  cases he : ctx.names.get? o with
  | none => simp [modelBlock?, he]
  | some e => exact h o e c he hc

theorem map_name_modelBlocks (roots : List Nat) :
    (ctx.modelBlocks roots).map (·.name) =
      (ctx.modelEntries roots).map RegistryEntry.modelName :=
  map_modelBlocks (fun o e c he hc => by simp [modelBlock?, he, hc]) roots

theorem map_registryName_modelBlocks (roots : List Nat) :
    (ctx.modelBlocks roots).map (·.registryName) =
      (ctx.modelEntries roots).map (·.registryName) :=
  map_modelBlocks (fun o e c he hc => by simp [modelBlock?, he, hc]) roots

/-- The constants of a module are those of its entries, each once. -/
theorem map_constant_enumBlocks (roots : List Nat) :
    (ctx.enumBlocks roots).map (·.constant) =
      ((ctx.enumEntries roots).map ctx.constantName).eraseDups := by
  have hblocks : (ctx.enumBlocks roots).map (·.constant) =
      (ctx.definingEnums (ctx.keptEnums roots)).map fun pair => ctx.constantName pair.1 := by
    rw [enumBlocks, List.map_map]
    rfl
  rw [hblocks, definingEnums,
    FirstMet.map_eraseDupsBy_beq (fun pair : RegistryEntry × SchemaClass => ctx.constantName pair.1),
    enumEntries, entriesOf, List.map_filterMap, List.map_filterMap]
  refine congrArg List.eraseDups (List.filterMap_congr fun o ho => ?_)
  obtain ⟨c, hc⟩ := exists_class_of_mem_keptOf (List.mem_of_mem_filter ho)
  cases he : ctx.names.get? o with
  | none => rfl
  | some e => simp [hc]

end Context
end SchemaModels

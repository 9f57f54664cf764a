/-
What a module defines, uses and imports.

Each part of a module is traced to the occurrences it comes from: a model to a kept occurrence of a
complex class, a constant to a kept enumeration, an import to a selection of one of the models.
Nothing that was asked for is lost on the way: of several enumerations with one constant the first
defines it, and an import stays among the lines once it is there.
-/
import SchemaModels.Emission
import SchemaModels.Proofs.Context
import SchemaModels.Proofs.Fold
import SchemaModels.Proofs.Mapper
import SchemaModels.Proofs.Registry.Reference

namespace SchemaModels
namespace Context

variable {m : Model} {ctx : Context}

/-! ## Parts -/

theorem emit_eq_some {module : String} {roots : List Nat} {source : ModuleSource}
    (h : ctx.emit module roots = some source) :
    source.imports = ctx.importLines module roots ∧ source.enums = ctx.enumBlocks roots ∧
      source.models = ctx.modelBlocks roots := by
  unfold emit at h
  split at h
  · exact absurd h (by simp)
  · rw [← Option.some.inj h]
    exact ⟨rfl, rfl, rfl⟩

theorem exists_emit {roots : List Nat} (h : ctx.isDropped roots = false) (module : String) :
    ∃ source, ctx.emit module roots = some source := by
  rw [emit, if_neg (by simp [h])]
  exact ⟨_, rfl⟩

/-! ## Models -/

theorem mem_keptOf_iff {roots : List Nat} {o : Occurrence} :
    o ∈ ctx.keptOf roots ↔ o ∈ ctx.forest.occurrences roots ∧ ctx.isSkipped o = false := by
  simp [keptOf, List.mem_filter]

theorem modelBlock?_eq_some {o : Occurrence} {block : ModelBlock}
    (h : ctx.modelBlock? o = some block) :
    ∃ e c, ctx.names.get? o = some e ∧ ctx.forest.get? o.id = some c ∧
      block.fields = (Mapper.mk ctx o c).mappings := by
  simp only [modelBlock?, Option.bind_eq_bind, Option.bind_eq_some_iff, Option.pure_def,
    Option.some.injEq] at h
  obtain ⟨e, he, c, hc, rfl⟩ := h
  exact ⟨e, c, he, hc, rfl⟩

/-! ## Constants -/

theorem constant_mem_enumBlocks {roots : List Nat} {o : Occurrence} {e : RegistryEntry}
    (ho : o ∈ ctx.keptOf roots)
    (hsimple : ctx.reach.isSimple o.id = true) (he : ctx.names.get? o = some e) :
    ctx.constantName e ∈ (ctx.enumBlocks roots).map (·.constant) := by
  obtain ⟨c, hc⟩ := (Forest.isOccurrence_of_mem (mem_keptOf_iff.mp ho).1).exists_get?
  have henum : o ∈ ctx.keptEnums roots := List.mem_filter.mpr ⟨ho, hsimple⟩
  -- Of the enumerations with this constant, the first one defines it.
  have hfirst : ∃ d ∈ ctx.definingEnums (ctx.keptEnums roots),
      (e, c) = d ∨ (ctx.constantName e == ctx.constantName d.1) = true := by
    refine FirstMet.exists_mem_eraseDupsBy (List.mem_filterMap.mpr ⟨o, henum, ?_⟩)
    rw [he, hc]
  obtain ⟨d, hd, hed⟩ := hfirst
  have hconstant : ctx.constantName e = ctx.constantName d.1 := by
    rcases hed with rfl | hed
    · rfl
    · exact beq_iff_eq.mp hed
  rw [enumBlocks, List.map_map, hconstant]
  exact List.mem_map.mpr ⟨d, hd, rfl⟩

/-! ## Imports -/

theorem mem_insertName {name other : String} :
    ∀ {names : List String}, other ∈ insertName name names ↔ other = name ∨ other ∈ names
  | [] => by simp [insertName]
  | first :: rest => by
    rw [insertName]
    split
    · rename_i h
      subst h
      simp
    split
    · simp
    · rw [List.mem_cons, mem_insertName, List.mem_cons, or_left_comm]

/-- The lines import a constant from a module. -/
def Imports (lines : List ImportLine) (i : ConstantImport) : Prop :=
  ∃ line ∈ lines, line.module = i.module ∧ i.constant ∈ line.names

theorem imports_cons {line : ImportLine} {lines : List ImportLine} {i : ConstantImport} :
    Imports (line :: lines) i ↔
      (line.module = i.module ∧ i.constant ∈ line.names) ∨ Imports lines i := by
  simp only [Imports, List.mem_cons, exists_eq_or_imp]

theorem constantImport_eq_iff {i j : ConstantImport} :
    i = j ↔ i.module = j.module ∧ j.constant = i.constant := by
  cases i
  cases j
  simp [eq_comm]

theorem imports_addImport {lines : List ImportLine} {i j : ConstantImport} :
    Imports (addImport lines i) j ↔ Imports lines j ∨ i = j := by
  induction lines with
  | nil =>
    rw [addImport, imports_cons, constantImport_eq_iff, or_comm]
    simp [Imports]
  | cons line rest ih =>
    rw [addImport]
    by_cases hmodule : line.module = i.module
    · rw [if_pos hmodule, imports_cons, imports_cons, mem_insertName, constantImport_eq_iff,
        hmodule, and_or_left, or_assoc, or_comm]
    · rw [if_neg hmodule, imports_cons, imports_cons, ih, or_assoc]

/-- The lines of a module import what its models need, and nothing else. -/
theorem imports_importLines_iff {module : String} {roots : List Nat} {j : ConstantImport} :
    Imports (ctx.importLines module roots) j ↔
      ∃ o ∈ ctx.keptModels roots, j ∈ ctx.importsOf module o := by
  have hfold := foldl_iff (f := addImport) (P := fun lines => Imports lines j) (Q := (· = j))
    (fun _ _ => imports_addImport) ((ctx.keptModels roots).flatMap (ctx.importsOf module)) []
  rw [importLines, hfold]
  simp [Imports]

/-- A selection whose enumeration is at home in another module has its constant imported. -/
theorem imports_of_selection {module home : String} {roots : List Nat} {o : Occurrence}
    {block : ModelBlock} {d : FieldDefinition} {target : Nat} {e : RegistryEntry}
    (ho : o ∈ ctx.keptModels roots) (hblock : ctx.modelBlock? o = some block)
    (hd : Mapping.field d ∈ block.fields) (htarget : d.selection = some target)
    (he : ctx.names.forReference target o.lineage = some e) (hhome : ctx.home? e.id = some home)
    (hne : home ≠ module) :
    Imports (ctx.importLines module roots)
      ⟨ModulePath.relativeImport module home, ctx.constantName e⟩ := by
  obtain ⟨own, c, hown, hc, hfields⟩ := modelBlock?_eq_some hblock
  refine imports_importLines_iff.mpr ⟨o, ho, ?_⟩
  rw [importsOf, hown, hc]
  refine List.mem_filterMap.mpr ⟨target, ?_, ?_⟩
  · exact List.mem_filterMap.mpr ⟨.field d, hfields ▸ hd, htarget⟩
  · simp [importFor?, he, hhome, hne]

/-! ## Homes -/

theorem mem_modules_of_home? (hctx : ctx.Gathered m) {id : Nat} {home : String}
    (h : ctx.home? id = some home) : ∃ roots, (home, roots) ∈ ctx.modules := by
  rw [home?, hctx.homes_eq] at h
  obtain ⟨before, after, hsplit, -⟩ := List.lookup_eq_some_iff.mp h
  have hmem : (id, home) ∈ ctx.forest.homesOf ctx.modules := hsplit ▸ by simp
  obtain ⟨⟨module, roots⟩, hmodule, hin⟩ := List.mem_flatMap.mp hmem
  obtain ⟨j, -, hj⟩ := List.mem_map.mp hin
  obtain rfl : module = home := congrArg Prod.snd hj
  exact ⟨roots, hmodule⟩

end Context
end SchemaModels

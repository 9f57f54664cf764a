/-
The model blocks of a module: one for every kept occurrence of a complex class, in order.

Names, kinds and classes are looked up on the way from the occurrences to the blocks, and each of
these lookups could drop one.  None does: every occurrence of a module has an entry and a class, and
was sorted by the kind of the class.  The rows of a block end with those of its keys, and then one
for each attribute that becomes something, mapped with the labels that the attributes before it
leave.  There are two ways in which a module does not come out as one row on one line after the
other: a name with a line break takes up several lines, and a blank stopword keeps the module from
being written at all.
-/
import Mathlib.Data.List.Forall2
import SchemaModels.Proofs.Context.Reached
import SchemaModels.Proofs.Emission.Loops
import SchemaModels.Proofs.Source.Lines

namespace SchemaModels

/-! ## Lines of a block -/

theorem Mapping.line?_eq_none_iff {mapping : Mapping} :
    mapping.line? = none ↔ mapping = .skipped := by
  cases mapping <;> simp [line?]

namespace Mapper

def usedAfter (m : Mapper) (attributes : List Attribute) : List String :=
  attributes.foldl (fun used a => (m.map used a).2) []

def mappingAt (m : Mapper) (i : Nat) (a : Attribute) : Mapping :=
  (m.map (m.usedAfter (m.owner.attributes.take i)) a).1

theorem mapFrom_usedAfter (m : Mapper) (before attributes : List Attribute) :
    m.mapFrom (m.usedAfter before) attributes =
      attributes.mapIdx fun i a => (m.map (m.usedAfter (before ++ attributes.take i)) a).1 := by
  induction attributes generalizing before with
  | nil => rfl
  | cons a rest ih =>
    have hnext : (m.map (m.usedAfter before) a).2 = m.usedAfter (before ++ [a]) := by
      rw [usedAfter, usedAfter, List.foldl_append, List.foldl_cons, List.foldl_nil]
    rw [mapFrom, hnext, ih, List.mapIdx_cons, List.take_zero, List.append_nil]
    simp only [List.append_assoc, List.singleton_append, List.take_succ_cons]

theorem mappings_eq (m : Mapper) : m.mappings = m.owner.attributes.mapIdx m.mappingAt :=
  m.mapFrom_usedAfter [] m.owner.attributes

end Mapper

/-! ## Blocks of occurrences -/

namespace Context

/-- The block of an occurrence: it has the registry name of the occurrence, and its lines are those
of the keys that lead back to the owners of lists, and then those of the attributes. -/
def IsBlockOf (ctx : Context) (o : Occurrence) (block : ModelBlock) : Prop :=
  ∃ e c, ctx.names.get? o = some e ∧ ctx.forest.get? o.id = some c ∧
    block.registryName = e.registryName ∧
    block.fieldLines =
      (ctx.inverses.get e.registryName).map
          (fun key => (implicitMany2one key.fieldName key.parent).render) ++
        (c.attributes.mapIdx (Mapper.mk ctx o c).mappingAt).filterMap Mapping.line?

theorem exists_block {ctx : Context} {o : Occurrence} {e : RegistryEntry} {c : SchemaClass}
    (he : ctx.names.get? o = some e) (hc : ctx.forest.get? o.id = some c) :
    ∃ block, ctx.modelBlock? o = some block ∧ ctx.IsBlockOf o block := by
  simp only [modelBlock?, he, hc, Option.bind_eq_bind, Option.bind_some, Option.pure_def,
    Option.some.injEq, exists_eq_left']
  refine ⟨e, c, he, hc, rfl, ?_⟩
  rw [ModelBlock.fieldLines, List.map_map, Mapper.mappings_eq]
  rfl

theorem forall₂_filterMap {α β : Type} {h : α → Option β} {R : α → β → Prop} {items : List α}
    (hitems : ∀ a ∈ items, ∃ b, h a = some b ∧ R a b) :
    List.Forall₂ R items (items.filterMap h) := by
  induction items with
  | nil => exact .nil
  | cons a rest ih =>
    obtain ⟨⟨b, hb, hR⟩, hrest⟩ := List.forall_mem_cons.mp hitems
    rw [List.filterMap_cons, hb]
    exact .cons hR (ih hrest)

/-- The occurrences of a module that become models: those of complex classes that are kept. -/
def shownModels (ctx : Context) (roots : List Nat) : List Occurrence :=
  (ctx.forest.occurrences roots).filter fun o =>
    !ctx.isSkipped o && (ctx.forest.get? o.id).any SchemaClass.isComplex

variable {m : Model} {ctx : Context}

theorem emit_eq_none_iff {module : String} {roots : List Nat} :
    ctx.emit module roots = none ↔
      maxSkippedClasses < (ctx.forest.occurrences roots).countP ctx.isSkipped ∨
        ∀ o ∈ ctx.forest.occurrences roots, ctx.isSkipped o = true := by
  have hdropped : ctx.emit module roots = none ↔ ctx.isDropped roots = true := by
    rw [emit]
    cases ctx.isDropped roots <;> simp
  rw [hdropped, isDropped, Bool.or_eq_true, decide_eq_true_iff, skippedOf,
    List.countP_eq_length_filter, List.isEmpty_iff, keptOf, List.filter_eq_nil_iff]
  simp

/-- Whether a class was sorted as complex is a matter of its kind, if it was sorted at all. -/
theorem Gathered.keptModels_eq (hctx : ctx.Gathered m) {module : String} {roots : List Nat}
    (hmodule : (module, roots) ∈ ctx.modules) : ctx.keptModels roots = ctx.shownModels roots := by
  rw [keptModels, keptOf, List.filter_filter, shownModels]
  refine List.filter_congr fun o ho => ?_
  obtain ⟨c, hc⟩ := (Forest.isOccurrence_of_mem ho).exists_get?
  have hreached : ctx.IsReached m o.id := by
    obtain ⟨scope, hscope, hin⟩ :=
      hctx.mem_occurrences_iff.mp (hctx.mem_occurrences_of_module hmodule ho)
    exact ⟨scope, hscope, (hctx.linked.exists_occurrence_iff.mp ⟨o, hin, rfl⟩).2⟩
  rw [(hctx.kind_of_isReached hreached hc).2, ← c.isComplex_eq, hc, Option.any_some, Bool.and_comm]

theorem Gathered.forall₂_modelBlocks (hctx : ctx.Gathered m) {module : String} {roots : List Nat}
    (hmodule : (module, roots) ∈ ctx.modules) :
    List.Forall₂ ctx.IsBlockOf (ctx.shownModels roots) (ctx.modelBlocks roots) := by
  rw [modelBlocks, hctx.keptModels_eq hmodule]
  refine forall₂_filterMap fun o ho => ?_
  have hlisted := List.mem_of_mem_filter ho
  obtain ⟨e, he⟩ := hctx.exists_entry (hctx.mem_occurrences_of_module hmodule hlisted)
  obtain ⟨c, hc⟩ := (Forest.isOccurrence_of_mem hlisted).exists_get?
  exact exists_block he hc

theorem Gathered.nodup_registryNames (hctx : ctx.Gathered m) {module : String} {roots : List Nat}
    (hmodule : (module, roots) ∈ ctx.modules) :
    ((ctx.modelBlocks roots).map (·.registryName)).Nodup := by
  rw [map_registryName_modelBlocks]
  refine List.Nodup.map_on (fun d hd e he h => ?_) (hctx.nodup_keptEntries hmodule _)
  exact hctx.inStep.eq_of_registryName_eq (mem_entries_of_mem_entriesOf hd)
    (mem_entries_of_mem_entriesOf he) h

/-! ## The text -/

/-- A module is dropped if too many of its occurrences are skipped or all of them are.  Otherwise it
is written if the labels on the way are found, and the lines of its text end with those of one block
for each kept occurrence of a complex class and of no others, in the order of the occurrences and
under their registry names, and each block with its fields: the keys, and what the attributes
become.  The row of an attribute is one line just if no name or message in it holds a line break. -/
theorem blocks_of_emitted {b : Bundle} {m : Model} {config : Config}
    {texts : String → Option String} {ctx : Context} (hm : b.model = .ok m)
    (hctx : collect m config texts = .ok ctx) {module : String} {roots : List Nat}
    (hmodule : (module, roots) ∈ ctx.modules) :
    (ctx.emit module roots = none ↔
      maxSkippedClasses < (ctx.forest.occurrences roots).countP ctx.isSkipped ∨
        ∀ o ∈ ctx.forest.occurrences roots, ctx.isSkipped o = true) ∧
    ctx.emitByLoops module roots = endsIf (ctx.EndsOn roots) (ctx.emit module roots) ∧
    (∀ source, ctx.emit module roots = some source →
      sourceLines source.render = source.frontRows.flatMap sourceLines ++
          source.models.flatMap (fun block =>
            (block.headRows source.baseClass ++
                ["    _name = \"" ++ block.registryName ++ "\"",
                 "    _inherit = \"" ++ source.inherited ++ "\"",
                 "    _binding_type = \"" ++ block.bindingType ++ "\""] ++
                block.fieldRows).flatMap sourceLines) ++ [""] ∧
        List.Forall₂ ctx.IsBlockOf (ctx.shownModels roots) source.models ∧
        (source.models.map (·.registryName)).Nodup) ∧
    (∀ mapping : Mapping, mapping.line? = none ↔ mapping = .skipped) ∧
    (∀ (mapping : Mapping) (line : String), mapping.line? = some line →
      (sourceLines ("    " ++ line) = ["    " ++ line] ↔
        ∀ text ∈ mapping.unquoted, '\n' ∉ text.toList)) ∧
    ∀ name parent : String,
      sourceLines ("    " ++ (implicitMany2one name parent).render) =
        ["    " ++ (implicitMany2one name parent).render] ↔ '\n' ∉ name.toList := by
  have hg : ctx.Gathered m := (gathered_of_collect hm hctx).2
  refine ⟨emit_eq_none_iff, ctx.emitByLoops_eq module roots, fun source hemit => ?_,
    fun _ => Mapping.line?_eq_none_iff, fun _ _ => Mapping.stands_on_one_line_iff,
    fun _ _ => implicitMany2one_stands_on_one_line_iff⟩
  have hmodels : source.models = ctx.modelBlocks roots := (emit_eq_some hemit).2.2
  refine ⟨source.sourceLines_render, ?_, ?_⟩
  · rw [hmodels]
    exact hg.forall₂_modelBlocks hmodule
  · rw [hmodels]
    exact hg.nodup_registryNames hmodule

/-- A document with a list of items, a kind and a name of two lines, and a module of which nothing
is left. -/
def mixedBundle : Bundle where
  classes :=
    [.node
      { qname := "Doc", name := "Doc"
        attributes :=
          [{ name := "kind", types := [.named "Kind"] },
           { name := "ghosts", maxOccurs := .unbounded, types := [.named "Ghost"] },
           { name := "total\ngeral", types := [] },
           { name := "items", maxOccurs := .unbounded, documentation := some "Itens"
             types := [.named "Item"] }] }
      [.node
        { qname := "Item", name := "Item"
          attributes := [{ name := "kind", types := [.named "Kind"] }] } []],
     .node { qname := "Kind", name := "Kind", kind := .enumeration } [],
     .node { qname := "Draft", name := "Draft" } []]
  modules := [("models", ["Doc", "Kind", "Draft"]), ("drafts", ["Draft"])]

/-- The lines of the document in source form. -/
def mixedLines : List String :=
  ["import textwrap", "", "from odoo import fields, models", "", "", "KIND = [", "]", "", "",
   "class Doc(models.AbstractModel):",
   "    _description = \"Doc\"",
   "    _name = \"spec.10.doc\"",
   "    _inherit = \"spec.mixin.spec\"",
   "    _binding_type = \"Doc\"", "",
   "    spec10_kind = fields.Selection(KIND, string=\"kind\", xsd_required=True)",
   "    # FIXME spec10_total",
   "geral: No type! class: Doc attr: total",
   "geral",
   "    spec10_items = fields.One2many(\"spec.10.item\", \"spec10_items_Doc_id\"" ++
     ", string=\"Itens\")", "", "",
   "class Item(models.AbstractModel):",
   "    _description = \"Item\"",
   "    _name = \"spec.10.item\"",
   "    _inherit = \"spec.mixin.spec\"",
   "    _binding_type = \"Doc.Item\"", "",
   "    spec10_items_Doc_id = fields.Many2one(comodel_name=\"spec.10.doc\"" ++
     ", xsd_implicit=True, ondelete=\"cascade\")",
   "    spec10_kind = fields.Selection(KIND, string=\"kind\", xsd_required=True)", ""]

/-- The draft has no block and its module no text; the list without a class leaves no line, the items
have the key of their list before the line of their attribute, and the remark on the name of two
lines takes up three.  With a blank stopword the module is never written. -/
theorem mixed_blocks :
    (∃ m ctx source, mixedBundle.model = .ok m ∧
      collect m { skip := ["^Draft$"] } (fun _ => none) = .ok ctx ∧
      ctx.emit "drafts" [3] = none ∧
      ctx.emitByLoops "models" [0, 2, 3] = Part.some (some source) ∧
      List.Forall₂ ctx.IsBlockOf [⟨0, [0], ["Doc"]⟩, ⟨1, [0, 1], ["Doc", "Item"]⟩] source.models ∧
      sourceLines source.render = mixedLines) ∧
    ∃ m ctx, mixedBundle.model = .ok m ∧
      collect m { labels := { stopwords := [""] } } (fun _ => none) = .ok ctx ∧
      ctx.emitByLoops "models" [0, 2, 3] = Part.none := by
  constructor
  · obtain ⟨m, ctx, hm, hctx, hcheck⟩ := exists_collect mixedBundle { skip := ["^Draft$"] }
      (fun _ => none)
      (fun _ ctx => ("drafts", [3]) ∈ ctx.modules ∧ ("models", [0, 2, 3]) ∈ ctx.modules ∧
        (∀ o ∈ ctx.forest.occurrences [3], ctx.isSkipped o = true) ∧
        ctx.shownModels [0, 2, 3] = [⟨0, [0], ["Doc"]⟩, ⟨1, [0, 1], ["Doc", "Item"]⟩] ∧
        ctx.EndsOn [0, 2, 3] ∧
        ∃ source ∈ ctx.emit "models" [0, 2, 3], source.frontRows.flatMap sourceLines ++
          source.models.flatMap (fun block =>
            (block.rows source.baseClass source.inherited).flatMap sourceLines) ++ [""] =
              mixedLines)
      (by decide +kernel)
    obtain ⟨hdrafts, hmodels, hskipped, hshown, hends, source, hemit, hlines⟩ :=
      of_decide_eq_true hcheck
    obtain ⟨hnone, -, -⟩ := blocks_of_emitted hm hctx hdrafts
    obtain ⟨-, hloops, hsource, -⟩ := blocks_of_emitted hm hctx hmodels
    obtain ⟨htext, hall, -⟩ := hsource source hemit
    rw [endsIf_of hends, hemit] at hloops
    exact ⟨m, ctx, source, hm, hctx, hnone.mpr (Or.inr hskipped), hloops, hshown ▸ hall,
      htext.trans hlines⟩
  · obtain ⟨m, ctx, hm, hctx, hcheck⟩ := exists_collect mixedBundle
      { labels := { stopwords := [""] } } (fun _ => none)
      (fun _ ctx => ("models", [0, 2, 3]) ∈ ctx.modules ∧ ¬ ctx.EndsOn [0, 2, 3])
      (by decide +kernel)
    obtain ⟨hmodels, hnever⟩ := of_decide_eq_true hcheck
    obtain ⟨-, hloops, -⟩ := blocks_of_emitted hm hctx hmodels
    exact ⟨m, ctx, hm, hctx, hloops.trans (endsIf_of_not hnever _)⟩

end Context
end SchemaModels

/-
Writing modules by loops.

Of what is done for a module only the search for labels has no bound that is known beforehand.  Here
it is made by the loops themselves, so what is written has a value just if all searches on the way
end.  They do unless there is a blank stopword and a label is looked for in a documentation text:
that of an attribute which is mapped, or the text before the first value of an enumeration.  What is
written then is what `emit` and `files` give (`emitByLoops_eq`, `filesByLoops_eq`).
-/
import SchemaModels.Generation
import SchemaModels.Proofs.Label.Blank

namespace SchemaModels

open Text

/-! ## Attributes -/

namespace Mapper

def mapByLoops (m : Mapper) (used : List String) (a : Attribute) :
    Part (Mapping × List String) :=
  if m.isSkipped a then pure (.skipped, used)
  else
    match a.primaryType with
    | none => pure (.diagnostic (m.fieldName a) ("No type! " ++ m.place a), used)
    | some type => do
      let label ← Label.extractByLoops m.ctx.config.labels.options used a.name a.documentation
      pure (m.typedField a label type, Label.use used label)

def mapFromByLoops (m : Mapper) (used : List String) : List Attribute → Part (List Mapping)
  | [] => pure []
  | a :: rest => do
    let (mapping, used) ← m.mapByLoops used a
    let others ← m.mapFromByLoops used rest
    pure (mapping :: others)

/-- No label is looked for, or it is found. -/
def EndsOn (m : Mapper) (a : Attribute) : Prop :=
  m.isSkipped a = true ∨ a.primaryType = none ∨
    m.ctx.config.labels.options.EndsOn a.documentation

instance (m : Mapper) (a : Attribute) : Decidable (m.EndsOn a) :=
  inferInstanceAs (Decidable (_ ∨ _ ∨ _))

theorem mapByLoops_eq (m : Mapper) (used : List String) (a : Attribute) :
    m.mapByLoops used a = endsIf (m.EndsOn a) (m.map used a) := by
  rw [mapByLoops, map]
  by_cases hskipped : m.isSkipped a = true
  · have hends : m.EndsOn a := Or.inl hskipped
    rw [if_pos hskipped, if_pos hskipped, endsIf_of hends]
    rfl
  rw [if_neg hskipped, if_neg hskipped]
  cases htype : a.primaryType with
  | none =>
    have hends : m.EndsOn a := Or.inr (Or.inl htype)
    rw [endsIf_of hends]
    rfl
  | some type =>
    have hends : m.EndsOn a ↔ m.ctx.config.labels.options.EndsOn a.documentation := by
      simp [EndsOn, hskipped, htype]
    rw [Label.extractByLoops_endsIf, endsIf_congr hends]
    exact endsIf_bind_pure _

theorem mapFromByLoops_eq (m : Mapper) (used : List String) (attributes : List Attribute) :
    m.mapFromByLoops used attributes =
      endsIf (∀ a ∈ attributes, m.EndsOn a) (m.mapFrom used attributes) := by
  induction attributes generalizing used with
  | nil => exact (endsIf_of (fun _ hnil => absurd hnil List.not_mem_nil) []).symm
  | cons a rest ih =>
    have hrest : (m.mapFromByLoops (m.map used a).2 rest >>= fun others =>
        pure ((m.map used a).1 :: others)) =
          endsIf (∀ c ∈ rest, m.EndsOn c) (m.mapFrom used (a :: rest)) := by
      rw [ih]
      exact endsIf_bind_pure _
    rw [mapFromByLoops, mapByLoops_eq]
    exact (endsIf_bind hrest).trans (endsIf_congr List.forall_mem_cons.symm _)

end Mapper

/-! ## Enumerations -/

/-- What stands before the first value, if that is explained and the text before it is not blank. -/
def leadingText? (text : List Char) (value : String) : Option String := do
  let (before, after) ← explanation? text value
  let _ ← explainedLabel? after
  if (trim before).isEmpty then none else return String.ofList before

theorem leadingHelp?_eq (options : LabelOptions) (name : String) (text : List Char)
    (value : String) :
    leadingHelp? options name text value = (leadingText? text value).map fun before =>
      (Label.extract { options with maxLength := maxHelpLength } [] name (some before)).text := by
  rw [leadingHelp?, leadingText?]
  cases explanation? text value with
  | none => rfl
  | some found =>
    obtain ⟨before, after⟩ := found
    simp only [Option.bind_eq_bind, Option.bind_some]
    cases explainedLabel? after with
    | none => rfl
    | some label =>
      simp only [Option.bind_some]
      split <;> rfl

def leadingHelpByLoops (options : LabelOptions) (name : String) (text : List Char)
    (value : String) : Part (Option String) :=
  match leadingText? text value with
  | none => pure none
  | some before => do
    let label ←
      Label.extractByLoops { options with maxLength := maxHelpLength } [] name (some before)
    pure (some label.text)

def helpFromByLoops (options : LabelOptions) (name : String) (text : List Char)
    (known : Option String) : List EnumValue → Part (Option String)
  | [] => pure known
  | first :: _ => do
    let leading ← leadingHelpByLoops options name text first.value
    pure (leading <|> known <|>
      if beginsWith first.value.toList text then none else some (String.ofList text))

/-- No label is looked for before the first value, or it is found. -/
def LabelOptions.EndsBefore (options : LabelOptions) (text : List Char)
    (values : List EnumValue) : Prop :=
  ∀ first ∈ values.head?, options.EndsOn (leadingText? text first.value)

instance (options : LabelOptions) (text : List Char) (values : List EnumValue) :
    Decidable (options.EndsBefore text values) :=
  inferInstanceAs (Decidable (∀ first ∈ values.head?, options.EndsOn _))

theorem leadingHelpByLoops_eq (options : LabelOptions) (name : String) (text : List Char)
    (value : String) :
    leadingHelpByLoops options name text value =
      endsIf (options.EndsOn (leadingText? text value)) (leadingHelp? options name text value) := by
  rw [leadingHelpByLoops, leadingHelp?_eq]
  cases leadingText? text value with
  | none =>
    have hends : options.EndsOn none := Or.inr rfl
    rw [endsIf_of hends]
    rfl
  | some before =>
    -- How long a label may be does not matter for whether it is found.
    have hends : options.EndsOn (some before) ↔
        LabelOptions.EndsOn { options with maxLength := maxHelpLength } (some before) := Iff.rfl
    simp only [Label.extractByLoops_endsIf]
    rw [endsIf_congr hends]
    exact endsIf_bind_pure _

theorem helpFromByLoops_eq (options : LabelOptions) (name : String) (text : List Char)
    (known : Option String) (values : List EnumValue) :
    helpFromByLoops options name text known values =
      endsIf (options.EndsBefore text values) (helpFrom options name text known values) := by
  cases values with
  | nil => exact (endsIf_of (fun _ hnone => nomatch hnone) known).symm
  | cons first rest =>
    have hends : options.EndsBefore text (first :: rest) ↔
        options.EndsOn (leadingText? text first.value) := by
      simp [LabelOptions.EndsBefore]
    rw [helpFromByLoops, leadingHelpByLoops_eq, endsIf_congr hends]
    exact endsIf_bind_pure _

namespace Context

def enumDocByLoops (ctx : Context) (id : Nat) (c : SchemaClass) : Part EnumDoc :=
  let known := ctx.facts.documentation id c
  match ctx.forest.fieldDoc? c with
  | none => pure ⟨c.values.map EnumValue.item, known⟩
  | some doc => do
    let text := doc.toList
    let help ← helpFromByLoops ctx.config.labels.options c.name text known c.values
    pure ⟨c.values.map fun v => ⟨v.value, labelIn text v.value⟩, help⟩

/-- The help of an enumeration is found. -/
def EndsOnEnum (ctx : Context) (c : SchemaClass) : Prop :=
  ∀ doc ∈ ctx.forest.fieldDoc? c, ctx.config.labels.options.EndsBefore doc.toList c.values

instance (ctx : Context) (c : SchemaClass) : Decidable (ctx.EndsOnEnum c) :=
  inferInstanceAs (Decidable (∀ doc ∈ ctx.forest.fieldDoc? c, LabelOptions.EndsBefore _ _ _))

theorem enumDocByLoops_eq (ctx : Context) (id : Nat) (c : SchemaClass) :
    ctx.enumDocByLoops id c = endsIf (ctx.EndsOnEnum c) (ctx.enumDoc id c) := by
  rw [enumDocByLoops, enumDoc]
  cases hdoc : ctx.forest.fieldDoc? c with
  | none =>
    have hends : ctx.EndsOnEnum c := fun doc h => nomatch hdoc.symm.trans h
    rw [endsIf_of hends]
    rfl
  | some doc =>
    have hends : ctx.EndsOnEnum c ↔
        ctx.config.labels.options.EndsBefore doc.toList c.values := by
      simp [EndsOnEnum, hdoc]
    rw [endsIf_congr hends]
    simp only [helpFromByLoops_eq]
    exact endsIf_bind_pure _

/-! ## Blocks and modules -/

def enumBlockByLoops (ctx : Context) (e : RegistryEntry) (c : SchemaClass) : Part EnumBlock := do
  let doc ← ctx.enumDocByLoops e.id c
  pure {
    constant := ctx.constantName e
    items := doc.distinct.map fun item => (item.value, item.label)
    docstring := Docstring.wrapText (doc.help.getD "") enumIndent Docstring.lineWidth }

def modelBlockByLoops (ctx : Context) (o : Occurrence) : Part (Option ModelBlock) :=
  match ctx.modelBlock? o, ctx.forest.get? o.id with
  | some block, some c => do
    let fields ← (Mapper.mk ctx o c).mapFromByLoops [] c.attributes
    pure (some { block with fields })
  | _, _ => pure none

def emitByLoops (ctx : Context) (module : String) (roots : List Nat) :
    Part (Option ModuleSource) :=
  if ctx.isDropped roots then pure none
  else do
    let enums ← (ctx.definingEnums (ctx.keptEnums roots)).mapM fun (e, c) =>
      ctx.enumBlockByLoops e c
    let models ← (ctx.keptModels roots).mapM ctx.modelBlockByLoops
    pure (some {
      imports := ctx.importLines module roots
      enums
      models := models.filterMap id
      baseClass := ctx.config.model.baseClass
      inherited := ctx.config.inheritedModel })

def filesByLoops (ctx : Context) : Part (List GeneratedFile) := do
  let files ← ctx.modules.mapM fun (module, roots) => do
    let source ← ctx.emitByLoops module roots
    pure (source.map fun source => ⟨ModulePath.file module, module, source.render⟩)
  pure (files.filterMap id)

/-- The attributes of an occurrence are mapped to the end. -/
def EndsOnModel (ctx : Context) (o : Occurrence) : Prop :=
  ∀ _e ∈ ctx.names.get? o, ∀ c ∈ ctx.forest.get? o.id, ∀ a ∈ c.attributes,
    (Mapper.mk ctx o c).EndsOn a

instance (ctx : Context) (o : Occurrence) : Decidable (ctx.EndsOnModel o) :=
  inferInstanceAs (Decidable (∀ _e ∈ ctx.names.get? o, ∀ c ∈ ctx.forest.get? o.id,
    ∀ a ∈ c.attributes, Mapper.EndsOn _ a))

/-- The module with the given roots is written to the end. -/
def EndsOn (ctx : Context) (roots : List Nat) : Prop :=
  ctx.isDropped roots = true ∨
    (∀ enumeration ∈ ctx.definingEnums (ctx.keptEnums roots), ctx.EndsOnEnum enumeration.2) ∧
      ∀ o ∈ ctx.keptModels roots, ctx.EndsOnModel o

instance (ctx : Context) (roots : List Nat) : Decidable (ctx.EndsOn roots) :=
  inferInstanceAs (Decidable (_ ∨ _ ∧ _))

theorem enumBlockByLoops_eq (ctx : Context) (e : RegistryEntry) (c : SchemaClass) :
    ctx.enumBlockByLoops e c = endsIf (ctx.EndsOnEnum c) (ctx.enumBlock e c) := by
  rw [enumBlockByLoops, enumDocByLoops_eq]
  exact endsIf_bind_pure _

theorem modelBlockByLoops_eq (ctx : Context) (o : Occurrence) :
    ctx.modelBlockByLoops o = endsIf (ctx.EndsOnModel o) (ctx.modelBlock? o) := by
  rw [modelBlockByLoops]
  cases he : ctx.names.get? o with
  | none =>
    have hends : ctx.EndsOnModel o := fun e h => nomatch he.symm.trans h
    have hnone : ctx.modelBlock? o = none := by simp [modelBlock?, he]
    rw [hnone, endsIf_of hends]
    rfl
  | some e =>
    cases hc : ctx.forest.get? o.id with
    | none =>
      have hends : ctx.EndsOnModel o := fun _ _ c h => nomatch hc.symm.trans h
      have hnone : ctx.modelBlock? o = none := by simp [modelBlock?, hc]
      rw [hnone, endsIf_of hends]
      rfl
    | some c =>
      have hends : ctx.EndsOnModel o ↔ ∀ a ∈ c.attributes, (Mapper.mk ctx o c).EndsOn a := by
        simp [EndsOnModel, he, hc]
      simp only [modelBlock?, he, hc, Option.bind_eq_bind, Option.bind_some, Option.pure_def,
        Mapper.mapFromByLoops_eq]
      rw [endsIf_congr hends]
      exact endsIf_bind_pure _

theorem emitByLoops_eq (ctx : Context) (module : String) (roots : List Nat) :
    ctx.emitByLoops module roots = endsIf (ctx.EndsOn roots) (ctx.emit module roots) := by
  rw [emitByLoops, emit]
  by_cases hdropped : ctx.isDropped roots = true
  · have hends : ctx.EndsOn roots := Or.inl hdropped
    rw [if_pos hdropped, if_pos hdropped, endsIf_of hends]
    rfl
  have hends : ctx.EndsOn roots ↔
      (∀ enumeration ∈ ctx.definingEnums (ctx.keptEnums roots), ctx.EndsOnEnum enumeration.2) ∧
        ∀ o ∈ ctx.keptModels roots, ctx.EndsOnModel o := or_iff_right hdropped
  have hmodels : (ctx.keptModels roots).mapM ctx.modelBlockByLoops =
      endsIf (∀ o ∈ ctx.keptModels roots, ctx.EndsOnModel o)
        ((ctx.keptModels roots).map ctx.modelBlock?) :=
    mapM_endsIf fun o _ => ctx.modelBlockByLoops_eq o
  rw [if_neg hdropped, if_neg hdropped, endsIf_congr hends,
    mapM_endsIf fun enumeration _ => ctx.enumBlockByLoops_eq enumeration.1 enumeration.2]
  refine endsIf_bind ?_
  rw [hmodels]
  refine (endsIf_bind_pure _).trans ?_
  rw [List.filterMap_map]
  rfl

theorem filesByLoops_eq (ctx : Context) :
    ctx.filesByLoops = endsIf (∀ module ∈ ctx.modules, ctx.EndsOn module.2) ctx.files := by
  have hmodule : ∀ module ∈ ctx.modules, (do
      let source ← ctx.emitByLoops module.1 module.2
      pure (source.map fun source =>
        (⟨ModulePath.file module.1, module.1, source.render⟩ : GeneratedFile))) =
        endsIf (ctx.EndsOn module.2) (ctx.file? module) := by
    intro module _
    rw [emitByLoops_eq]
    exact endsIf_bind_pure _
  rw [filesByLoops, mapM_endsIf hmodule]
  refine (endsIf_bind_pure _).trans ?_
  rw [List.filterMap_map]
  rfl

/-- Without blank stopwords every module is written to the end. -/
theorem endsOn_of_hasNoBlankStopword {ctx : Context}
    (h : ctx.config.labels.options.HasNoBlankStopword) (roots : List Nat) : ctx.EndsOn roots :=
  Or.inr ⟨fun _ _ _ _ _ _ => Or.inl h, fun _ _ _ _ _ _ _ _ => Or.inr (Or.inr (Or.inl h))⟩

end Context

end SchemaModels

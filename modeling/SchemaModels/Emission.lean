/-
Writing a module.

The occurrences below the roots of a module are its content: enumerations become selection
constants, complex classes become models, and skipped ones are left out.  A module with more than
three skipped occurrences is dropped, and so is one with nothing to keep.  A constant is defined
once; one that a selection needs and another module holds is imported from there.
-/
import SchemaModels.Mapper
import SchemaModels.Selection.Doc
import SchemaModels.Source.Import
import SchemaModels.Source.Module

namespace SchemaModels

/-- A module with more skipped occurrences than this is dropped. -/
def maxSkippedClasses : Nat := 3

namespace Context

/-! ## What a module holds -/

def skippedOf (ctx : Context) (roots : List Nat) : List Occurrence :=
  (ctx.forest.occurrences roots).filter ctx.isSkipped

def keptOf (ctx : Context) (roots : List Nat) : List Occurrence :=
  (ctx.forest.occurrences roots).filter fun o => !ctx.isSkipped o

def isDropped (ctx : Context) (roots : List Nat) : Bool :=
  maxSkippedClasses < (ctx.skippedOf roots).length || (ctx.keptOf roots).isEmpty

def keptEnums (ctx : Context) (roots : List Nat) : List Occurrence :=
  (ctx.keptOf roots).filter fun o => ctx.reach.isSimple o.id

def keptModels (ctx : Context) (roots : List Nat) : List Occurrence :=
  (ctx.keptOf roots).filter fun o => ctx.reach.isComplex o.id

/-! ## Selection constants -/

def enumIndent : Nat := 0

def enumBlock (ctx : Context) (e : RegistryEntry) (c : SchemaClass) : EnumBlock :=
  let doc := ctx.enumDoc e.id c
  { constant := ctx.constantName e
    items := doc.distinct.map fun item => (item.value, item.label)
    docstring := Docstring.wrapText (doc.help.getD "") enumIndent Docstring.lineWidth }

/-- The enumerations with the constants they define: those with a name, each constant once. -/
def definingEnums (ctx : Context) (occurrences : List Occurrence) :
    List (RegistryEntry × SchemaClass) :=
  (occurrences.filterMap fun o =>
    match ctx.names.get? o, ctx.forest.get? o.id with
    | some e, some c => some (e, c)
    | _, _ => none).eraseDupsBy fun a b => ctx.constantName a.1 == ctx.constantName b.1

def enumBlocks (ctx : Context) (roots : List Nat) : List EnumBlock :=
  (ctx.definingEnums (ctx.keptEnums roots)).map fun (e, c) => ctx.enumBlock e c

/-! ## Models -/

def modelBlock? (ctx : Context) (o : Occurrence) : Option ModelBlock := do
  let e ← ctx.names.get? o
  let c ← ctx.forest.get? o.id
  let docstring := Docstring.ofDoc (ctx.facts.documentation o.id c)
  return {
    name := e.modelName
    docstring
    description := Docstring.description c.name (!docstring.isEmpty)
    registryName := e.registryName
    bindingType := o.key
    keys := (ctx.inverses.get e.registryName).map fun key =>
      implicitMany2one key.fieldName key.parent
    fields := (Mapper.mk ctx o c).mappings }

def modelBlocks (ctx : Context) (roots : List Nat) : List ModelBlock :=
  (ctx.keptModels roots).filterMap ctx.modelBlock?

/-! ## Imports -/

structure ConstantImport where
  module : String
  constant : String
deriving Repr, DecidableEq

/-- The import that a selection needs in a module: none if the enumeration has no name, no home, or
its home in the module itself. -/
def importFor? (ctx : Context) (module : String) (lineage : List Nat) (target : Nat) :
    Option ConstantImport := do
  let e ← ctx.names.forReference target lineage
  let home ← ctx.home? e.id
  if home = module then none
  else return ⟨ModulePath.relativeImport module home, ctx.constantName e⟩

def selectionTargets (fields : List Mapping) : List Nat :=
  fields.filterMap fun
    | .field definition => definition.selection
    | _ => none

def importsOf (ctx : Context) (module : String) (o : Occurrence) : List ConstantImport :=
  match ctx.names.get? o, ctx.forest.get? o.id with
  | some _, some c =>
    (selectionTargets (Mapper.mk ctx o c).mappings).filterMap (ctx.importFor? module o.lineage)
  | _, _ => []

/-- A name among others in order, each once. -/
def insertName (name : String) : List String → List String
  | [] => [name]
  | n :: rest =>
    if name = n then n :: rest
    else if name < n then name :: n :: rest
    else n :: insertName name rest

/-- An import among the lines: in that of its module, or in a new one at the end. -/
def addImport : List ImportLine → ConstantImport → List ImportLine
  | [], i => [⟨i.module, [i.constant]⟩]
  | line :: rest, i =>
    if line.module = i.module then { line with names := insertName i.constant line.names } :: rest
    else line :: addImport rest i

def importLines (ctx : Context) (module : String) (roots : List Nat) : List ImportLine :=
  ((ctx.keptModels roots).flatMap (ctx.importsOf module)).foldl addImport []

/-! ## The module -/

/-- The module with the given roots, unless it is dropped. -/
def emit (ctx : Context) (module : String) (roots : List Nat) : Option ModuleSource :=
  if ctx.isDropped roots then none
  else
    some {
      imports := ctx.importLines module roots
      enums := ctx.enumBlocks roots
      models := ctx.modelBlocks roots
      baseClass := ctx.config.model.baseClass
      inherited := ctx.config.inheritedModel }

end Context

end SchemaModels

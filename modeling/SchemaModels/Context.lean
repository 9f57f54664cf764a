/-
What has to be known before any module is written.

Names, keys and facts are gathered over all groups of a model, packages before modules: a package is
the scope within which names are resolved, and roots that stand in no package are named afterwards.
An occurrence that belongs to several groups counts once.  Only the configuration can be at fault,
its skip patterns before its numeric convention.
-/
import SchemaModels.Bundle
import SchemaModels.Config
import SchemaModels.Facts
import SchemaModels.Inverse

namespace SchemaModels

structure Context where
  config : Config
  rules : SkipRules
  numeric : NumericClassifier
  /-- The classes, with repeated attributes merged. -/
  forest : Forest
  modules : Groups Nat
  reach : Reach
  names : Registry
  /-- The occurrences of all groups, each once. -/
  occurrences : List Occurrence
  inverses : InverseTable
  facts : FactTable
  /-- Classes with the modules that hold them; the first one counts. -/
  homes : List (Nat × String)

namespace Model

/-- The members of all groups, packages before modules. -/
def scopes (m : Model) : List (List Nat) := (m.packages ++ m.modules).map Prod.snd

/-- The forest with repeated attributes merged as the configuration says. -/
def merged (m : Model) (config : Config) : Forest := m.forest.merge config.merge.effective

def locations (m : Model) : List String :=
  (m.forest.classes.toList.filterMap fun c => c.location).eraseDups

end Model

/-- The occurrences reached from several groups of roots, each once. -/
def Forest.occurrencesOf (f : Forest) (scopes : List (List Nat)) : List Occurrence :=
  (scopes.flatMap f.occurrences).eraseDupsBy Occurrence.same

def Forest.homesOf (f : Forest) (modules : Groups Nat) : List (Nat × String) :=
  modules.flatMap fun (module, roots) => (f.walk roots).map fun id => (id, module)

namespace Context

/-- What the keys of lists are gathered from. -/
def inverseSource (ctx : Context) : InverseSource :=
  ⟨ctx.forest, ctx.names, ctx.reach, ctx.rules, ctx.config.fieldNaming⟩

/-- Gather everything, given what the configuration says about skipping and numbers. -/
def gather (m : Model) (config : Config) (rules : SkipRules) (numeric : NumericClassifier)
    (files : SchemaFiles) : Context :=
  let forest := m.merged config
  let reach := m.scopes.foldl (Reach.addFrom forest) {}
  let names := m.scopes.foldl (Registry.resolve forest) (.empty config.schema config.version)
  let occurrences := forest.occurrencesOf m.scopes
  let source : InverseSource := ⟨forest, names, reach, rules, config.fieldNaming⟩
  { config, rules, numeric, forest, reach, names, occurrences
    modules := m.modules
    inverses := source.collect {} occurrences
    facts := occurrences.foldl (fun table o => table.mine forest files o.lineage) {}
    homes := forest.homesOf m.modules }

/-- Gather everything, given the texts of schema files by location. -/
def collect (m : Model) (config : Config) (texts : String → Option String) :
    Except ConfigError Context := do
  let rules ← SkipRules.read config.skip
  let numeric ← config.numeric.classifier
  return gather m config rules numeric (SchemaFiles.ofTexts texts m.locations)

/-! ## Asking -/

def parents (ctx : Context) (o : Occurrence) : List String := ctx.forest.lineageNames o.lineage

/-- The occurrence, or one around it, is skipped. -/
def isSkipped (ctx : Context) (o : Occurrence) : Bool := ctx.rules.skipsLineage (ctx.parents o)

def home? (ctx : Context) (id : Nat) : Option String := ctx.homes.lookup id

end Context

end SchemaModels

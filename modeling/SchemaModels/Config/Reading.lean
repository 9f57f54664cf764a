/-
Reading configurations.

Every entry may be left out; unknown ones are passed over.
-/
import SchemaModels.Config
import SchemaModels.Document.Reading
import SchemaModels.Document.Yaml.Tree

namespace SchemaModels
namespace Reading

def namingStrategies : List (String × NamingStrategy) :=
  [("no_prefix_no_safe_name", .plain), ("prefix_safe_name", .leadSafe),
   ("prefix_raw_name", .leadRaw)]

def labelLanguages : List (String × LabelLanguage) :=
  [("portuguese", .portuguese), ("english", .english)]

def mergePolicies : List (String × MergePolicy) := [("minimum", .minimum), ("sum", .sum)]

/-- A record whose entries change settings, each at most once. -/
def settings {σ : Type} (depth : Nat) (entry : σ → String → Node → Reading (Option σ)) (start : σ)
    (node : Node) : Reading σ := do
  let step := fun (known : σ × List String) key value => do
    if known.2.contains key then unfit
    else
      match ← entry known.1 key value with
      | some s => return (s, key :: known.2)
      | none => do
        pass value
        return known
  return (← record depth step (start, []) node).1

def numericEntry (s : NumericSettings) (key : String) (value : Node) :
    Reading (Option NumericSettings) := do
  match key with
  | "monetary_digits" => return some { s with monetaryDigits := ← natural Text.wordLimit value }
  | "num_type" => return some { s with convention := ← text value }
  | "monetary_type" => return some { s with monetaryType := ← optional text value }
  | "currency_field" => return some { s with currencyField := ← text value }
  | _ => return none

def modelEntry (s : ModelSettings) (key : String) (value : Node) :
    Reading (Option ModelSettings) := do
  match key with
  | "python_inherit" => return some { s with baseClass := ← text value }
  | "inherit" => return some { s with inherited := ← optional text value }
  | _ => return none

def namingEntry (s : NamingSettings) (key : String) (value : Node) :
    Reading (Option NamingSettings) := do
  match key with
  | "strategy" => return some { s with strategy := ← choice namingStrategies value }
  | "prefix" => return some { s with lead := ← optional text value }
  | _ => return none

def labelEntry (depth : Nat) (s : LabelSettings) (key : String) (value : Node) :
    Reading (Option LabelSettings) := do
  match key with
  | "language" => return some { s with language := ← choice labelLanguages value }
  | "stopwords" => return some { s with stopwords := ← list depth text value }
  | "useless_starts" => return some { s with uselessStarts := ← list depth text value }
  | "min_len" => return some { s with minLength := ← natural Text.longLimit value }
  | "max_len" => return some { s with maxLength := ← natural Text.longLimit value }
  | _ => return none

def mergeEntry (s : MergeSettings) (key : String) (value : Node) :
    Reading (Option MergeSettings) := do
  match key with
  | "max_occurs" => return some { s with policy := ← choice mergePolicies value }
  | "disable_choice_workaround" => return some { s with choicesAsLists := ← bool value }
  | _ => return none

def formatEntry (s : FormatSettings) (key : String) (value : Node) :
    Reading (Option FormatSettings) := do
  match key with
  | "enabled" => return some { s with enabled := ← bool value }
  | "command" => return some { s with command := ← text value }
  | _ => return none

def configEntry (depth : Nat) (c : Config) (key : String) (value : Node) :
    Reading (Option Config) := do
  match key with
  | "input" => return some { c with input := ← text value }
  | "output" => return some { c with output := ← text value }
  | "schema" => return some { c with schema := ← text value }
  | "version" => return some { c with version := ← text value }
  | "skip" => return some { c with skip := ← list depth text value }
  | "numeric" => return some { c with numeric := ← settings depth numericEntry {} value }
  | "model" => return some { c with model := ← settings depth modelEntry {} value }
  | "field_naming" => return some { c with naming := ← settings depth namingEntry {} value }
  | "labels" => return some { c with labels := ← settings depth (labelEntry (depth - 1)) {} value }
  | "merge" => return some { c with merge := ← settings depth mergeEntry {} value }
  | "format" => return some { c with format := ← settings depth formatEntry {} value }
  | _ => return none

def config (depth : Nat) (node : Node) : Reading Config :=
  settings depth (configEntry (depth - 1)) {} node

end Reading

/-- The configuration that a text holds; without a text everything has its standard value. -/
def Config.ofText : Option String → Except ConfigError Config
  | none => .ok {}
  | some text =>
    match (Document.ofYaml text).decode Reading.config with
    | .ok config => .ok config
    | .error _ => .error .unreadable

end SchemaModels

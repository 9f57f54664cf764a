/-
The configuration of a project: what is generated, under which names, and how it is formatted.

Every setting has a value of its own, so an empty configuration is a configuration.  Two settings
are derived from others when they are not given: the model from which all models inherit, and what
field names begin with.
-/
import SchemaModels.Error
import SchemaModels.FieldName
import SchemaModels.Label
import SchemaModels.Merge
import SchemaModels.NumericType

namespace SchemaModels

/-! ## Settings -/

structure NumericSettings where
  /-- The decimal places of an amount of money. -/
  monetaryDigits : Nat := 2
  /-- The convention for the names of numeric types. -/
  convention : String := "TDec_[5:7.7:9]"
  /-- Types that begin with this are always money. -/
  monetaryType : Option String := none
  /-- The field that holds the currency of an amount. -/
  currencyField : String := "brl_currency_id"
deriving Repr, DecidableEq

structure ModelSettings where
  baseClass : String := "models.AbstractModel"
  /-- The model that every model inherits. -/
  inherited : Option String := none
deriving Repr, DecidableEq

structure NamingSettings where
  strategy : NamingStrategy := .leadRaw
  /-- What field names begin with. -/
  lead : Option String := none
deriving Repr, DecidableEq

structure LabelSettings where
  language : LabelLanguage := .portuguese
  /-- Stopwords besides those of the language. -/
  stopwords : List String := []
  uselessStarts : List String := ["Informar o ", "Informar a ", "Preencher com "]
  minLength : Nat := 36
  maxLength : Nat := 40
deriving Repr, DecidableEq

structure MergeSettings where
  policy : MergePolicy := .minimum
  /-- Sum the bounds whatever the policy says. -/
  choicesAsLists : Bool := false
deriving Repr, DecidableEq

structure FormatSettings where
  enabled : Bool := true
  command : String := "ruff"
deriving Repr, DecidableEq

structure Config where
  input : String := "classes.yaml"
  output : String := "generated"
  /-- The first part of every registry name. -/
  schema : String := "spec"
  /-- The second part of every registry name. -/
  version : String := "10"
  /-- Skip patterns besides those for signatures. -/
  skip : List String := []
  numeric : NumericSettings := {}
  model : ModelSettings := {}
  naming : NamingSettings := {}
  labels : LabelSettings := {}
  merge : MergeSettings := {}
  format : FormatSettings := {}
deriving Repr, DecidableEq

/-! ## What follows from the settings -/

def NumericSettings.classifier (settings : NumericSettings) :
    Except ConfigError NumericClassifier := do
  let convention ← NumericConvention.read settings.convention
  return ⟨convention, settings.monetaryType, settings.monetaryDigits⟩

def LabelSettings.options (settings : LabelSettings) : LabelOptions where
  minLength := settings.minLength
  maxLength := settings.maxLength
  stopwords := settings.language.stopwords ++ settings.stopwords
  uselessStarts := settings.uselessStarts

def MergeSettings.effective (settings : MergeSettings) : MergePolicy :=
  if settings.choicesAsLists then .sum else settings.policy

namespace Config

def inheritedModel (config : Config) : String :=
  config.model.inherited.getD ("spec.mixin." ++ config.schema)

def fieldLead (config : Config) : String :=
  config.naming.lead.getD (config.schema ++ config.version ++ "_")

def fieldNaming (config : Config) : FieldNaming := ⟨config.naming.strategy, config.fieldLead⟩

def fileName : String := ".xso.yaml"

def template : String :=
  "# xso configuration
input: classes.yaml     # class-model bundle exported from the XSD parser
output: generated
schema: nfe
version: \"40\"

skip: []                # extra class/field regexes, e.g. \"^TNFe.infNFe.autXML$\"

numeric:
  monetary_digits: 2
  num_type: \"TDec_[5:7.7:9]\"    # prefix[int_start:int_stop.dec_start:dec_stop]
  # monetary_type: TDec_1302     # xsd type prefix always mapped to Monetary
  currency_field: brl_currency_id

model:
  python_inherit: models.AbstractModel
  # inherit: spec.mixin.nfe

field_naming:
  strategy: prefix_raw_name     # no_prefix_no_safe_name | prefix_safe_name | prefix_raw_name
  # prefix: nfe40_

labels:
  language: portuguese          # portuguese | english
  stopwords: []
  min_len: 36
  max_len: 40

merge:
  max_occurs: minimum           # minimum | sum
  disable_choice_workaround: false

format:
  enabled: true
  command: ruff
"

end Config

end SchemaModels

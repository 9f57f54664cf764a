/-
Modules of the generated source: what they import, selection constants and models.

A module is a value first and a text after that, so that what it defines can be read off it.
-/
import SchemaModels.Source.Docstring
import SchemaModels.Source.Field

namespace SchemaModels

structure ImportLine where
  module : String
  names : List String
deriving Repr, DecidableEq

structure EnumBlock where
  constant : String
  items : List (String × String)
  /-- The literal under the constant, empty if there is none. -/
  docstring : String
deriving Repr, DecidableEq

structure ModelBlock where
  name : String
  /-- The literal under the head, empty if there is none. -/
  docstring : String
  /-- The expression that describes the model. -/
  description : String
  registryName : String
  /-- The dotted path of the class in the schema. -/
  bindingType : String
  /-- The keys that lead back to the owners of lists. -/
  keys : List FieldDefinition
  /-- What the attributes become. -/
  fields : List Mapping

structure ModuleSource where
  imports : List ImportLine
  enums : List EnumBlock
  models : List ModelBlock
  baseClass : String
  inherited : String

/-! ## Writing -/

def closedLines (lines : List String) : String := String.join (lines.map (· ++ "\n"))

def optionalLine (indent text : String) : String :=
  if text.isEmpty then "" else indent ++ text ++ "\n"

def ImportLine.render (line : ImportLine) : String :=
  "from " ++ line.module ++ " import " ++ ", ".intercalate line.names

namespace EnumBlock

def itemLine (item : String × String) : String :=
  "    (" ++ Literal.quote item.1 ++ ", " ++ Literal.quote item.2 ++ "),"

/-- The constant in source form, two lines apart from what comes before. -/
def render (block : EnumBlock) : String :=
  "\n\n" ++ block.constant ++ " = [\n" ++ closedLines (block.items.map itemLine) ++ "]\n"
    ++ optionalLine "" block.docstring

end EnumBlock

namespace ModelBlock

def fieldLines (block : ModelBlock) : List String :=
  block.keys.map FieldDefinition.render ++ block.fields.filterMap Mapping.line?

/-- The model in source form, two lines apart from what comes before. -/
def render (baseClass inherited : String) (block : ModelBlock) : String :=
  "\n\nclass " ++ block.name ++ "(" ++ baseClass ++ "):\n" ++ optionalLine "    " block.docstring
    ++ closedLines
      ["    _description = " ++ block.description,
       "    _name = \"" ++ block.registryName ++ "\"",
       "    _inherit = \"" ++ inherited ++ "\"",
       "    _binding_type = \"" ++ block.bindingType ++ "\""]
    ++ (if block.fieldLines.isEmpty then ""
        else "\n" ++ closedLines (block.fieldLines.map ("    " ++ ·)))

end ModelBlock

namespace ModuleSource

def header : String := "import textwrap\n\nfrom odoo import fields, models\n"

def importText (imports : List ImportLine) : String :=
  if imports.isEmpty then "" else "\n" ++ closedLines (imports.map ImportLine.render)

def render (m : ModuleSource) : String :=
  header ++ importText m.imports ++ String.join (m.enums.map EnumBlock.render)
    ++ String.join (m.models.map (ModelBlock.render m.baseClass m.inherited))

end ModuleSource

end SchemaModels

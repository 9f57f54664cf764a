/-
Fields of the generated models: a name, a constructor and its arguments, or what stands in their
place.
-/
import SchemaModels.Source.Keywords

namespace SchemaModels

inductive FieldKind where
  | char
  | integer
  | float
  | monetary
  | date
  | datetime
  | boolean
  | selection
  | one2many
  | many2one
deriving Repr, DecidableEq

namespace FieldKind

def sourceName : FieldKind → String
  | char => "Char"
  | integer => "Integer"
  | float => "Float"
  | monetary => "Monetary"
  | date => "Date"
  | datetime => "Datetime"
  | boolean => "Boolean"
  | selection => "Selection"
  | one2many => "One2many"
  | many2one => "Many2one"

def isRelational : FieldKind → Bool
  | one2many | many2one => true
  | _ => false

end FieldKind

/-- A field: `name = fields.Kind(positional, key=value)`. -/
structure FieldDefinition where
  name : String
  kind : FieldKind
  positional : List Literal
  kwargs : Keywords
  /-- The class whose values a selection offers. -/
  selection : Option Nat := none

def FieldDefinition.render (field : FieldDefinition) : String :=
  field.name ++ " = fields." ++ field.kind.sourceName ++ "("
    ++ Literal.renderItems field.positional
    ++ (if field.positional.isEmpty || field.kwargs.isEmpty then "" else ", ")
    ++ field.kwargs.render ++ ")"

/-- The key that leads from an item back to the owner of the list: deleting the owner deletes the
item. -/
def implicitMany2one (name parent : String) : FieldDefinition where
  name := name
  kind := .many2one
  positional := []
  kwargs :=
    [("comodel_name", .text parent), ("xsd_implicit", .bool true), ("ondelete", .text "cascade")]

inductive Mapping where
  | field (definition : FieldDefinition)
  | skipped
  /-- A remark in the source about a field that has to be written by hand. -/
  | diagnostic (name message : String)

def Mapping.line? : Mapping → Option String
  | field definition => some definition.render
  | skipped => none
  | diagnostic name message => some ("# FIXME " ++ name ++ ": " ++ message)

end SchemaModels

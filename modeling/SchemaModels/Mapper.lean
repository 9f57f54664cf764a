/-
From attributes to fields.

An attribute becomes a field of the model of its class, unless it is skipped.  A datatype becomes a
plain field: days and points in time first, then whole numbers, then what the numeric convention
says, then the family of the datatype.  A class becomes a selection if it is an enumeration, a link
if it is complex, and a list of items if there can be several.  What cannot be mapped leaves a
remark.

The label is the only thing that depends on what came before: within one class no label is used
twice.
-/
import SchemaModels.Datatype
import SchemaModels.Note
import SchemaModels.Selection
import SchemaModels.Source.Field

namespace SchemaModels

structure Mapper where
  ctx : Context
  occurrence : Occurrence
  owner : SchemaClass

namespace Mapper

def parents (m : Mapper) : List String := m.ctx.parents m.occurrence

def fieldName (m : Mapper) (a : Attribute) : String := m.ctx.config.fieldNaming.fieldName a.name

def isSkipped (m : Mapper) (a : Attribute) : Bool := m.ctx.rules.skips a.name m.parents

def fact? (m : Mapper) (a : Attribute) : Option Fact := m.ctx.facts.get? m.owner a.name

def place (m : Mapper) (a : Attribute) : String :=
  "class: " ++ m.owner.name ++ " attr: " ++ a.name

/-! ## Keywords -/

def factKeywords : Option Fact → Keywords
  | none => []
  | some fact =>
    (fact.type.map fun type => ("xsd_type", Literal.text type)).toList
      ++ (fact.choice.map fun choice => ("choice", Literal.text choice)).toList
      ++ (if fact.choiceRequired then [("xsd_choice_required", .bool true)] else [])

/-- The keywords that any attribute has, set one after the other as they become known. -/
def attributeKeywords (m : Mapper) (a : Attribute) (label : Label) : Keywords :=
  let named := Keywords.insert [] "string" (.text label.text)
  let required := if a.isRequired then named.insert "xsd_required" (.bool true) else named
  let known := required.insertAll (factKeywords (m.fact? a))
  match label.help with
  | none => known
  | some help => known.insert "help" (.text help)

/-- The keywords of a field: behind those of its attribute its kind sets its `own`, and then moves
the other model of a link to the front or the help of a plain field to the end. -/
def setKeywords (m : Mapper) (a : Attribute) (label : Label) (own : Keywords) (kind : FieldKind) :
    Keywords :=
  let kwargs := (m.attributeKeywords a label).insertAll own
  if kind = .many2one then kwargs.moveToFront "comodel_name"
  else if kind = .one2many ∨ kind = .selection then kwargs
  else kwargs.moveToEnd "help"

/-! ## Plain fields -/

/-- What the numeric convention says about an attribute: it is asked about texts and numbers with
decimal places. -/
def numericKind? (m : Mapper) (a : Attribute) (family : Option DatatypeFamily) :
    Option NumericKind :=
  if family = some .float ∨ family = some .char then
    (m.fact? a).bind fun fact => fact.type.bind fun type => m.ctx.numeric.classify a.name type
  else none

def digitsLiteral (digits : Precision) : Literal :=
  .tuple [.int digits.integer, .int digits.decimal]

def plainKind? (m : Mapper) (a : Attribute) (code : String) : Option (FieldKind × Keywords) :=
  let type := (m.fact? a).bind fun fact => fact.type
  let isOneOf (types : List String) := types.contains code || type.any types.contains
  let family := datatypeFamily code
  if isOneOf dateTypes then some (.date, [])
  else if isOneOf datetimeTypes then some (.datetime, [])
  else if family = some .integer then some (.integer, [])
  else
    match m.numericKind? a family, family with
    | some .monetary, _ =>
      some (.monetary, [("currency_field", .text m.ctx.config.numeric.currencyField)])
    | some (.float digits), _ => some (.float, [("digits", digitsLiteral digits)])
    | none, some .float => some (.float, [])
    | none, some .char => some (.char, [])
    | none, some .boolean => some (.boolean, [])
    | none, _ => none

def plainField (m : Mapper) (a : Attribute) (label : Label) (code : String) : Mapping :=
  match m.plainKind? a code with
  | some (kind, extra) => .field ⟨m.fieldName a, kind, [], m.setKeywords a label extra kind, none⟩
  | none => .diagnostic (m.fieldName a) (code ++ " not implemented yet! " ++ m.place a)

/-! ## Fields that lead to other classes -/

def missingMessage (m : Mapper) (a : Attribute) (qname : String) : String :=
  "Missing class " ++ qname ++ "! " ++ m.place a

def missing (m : Mapper) (a : Attribute) (qname : String) : Mapping :=
  .diagnostic (m.fieldName a) (m.missingMessage a qname)

def listField (m : Mapper) (a : Attribute) (label : Label) (qname : String) : Mapping :=
  match listTarget m.ctx.forest m.ctx.reach m.ctx.rules m.parents a with
  | none => .skipped
  | some target =>
    match m.ctx.names.forReference target m.occurrence.lineage with
    | none => m.missing a qname
    | some item =>
      let key := m.ctx.config.fieldNaming.inverseFieldName a.name m.owner.name
      .field ⟨m.fieldName a, .one2many, [.text item.registryName, .text key],
        m.setKeywords a label [] .one2many, none⟩

def selectionField (m : Mapper) (a : Attribute) (label : Label) (qname : String) (target : Nat) :
    Mapping :=
  match m.ctx.selectionConstant target m.occurrence.lineage with
  | none => m.missing a qname
  | some constant =>
    .field ⟨m.fieldName a, .selection, [.name constant], m.setKeywords a label [] .selection,
      some target⟩

def linkField (m : Mapper) (a : Attribute) (label : Label) (qname : String) (target : Nat) :
    Mapping :=
  match m.ctx.names.forReference target m.occurrence.lineage with
  | none => m.missing a qname
  | some other =>
    let own := [("comodel_name", Literal.text other.registryName)]
    .field ⟨m.fieldName a, .many2one, [], m.setKeywords a label own .many2one, none⟩

def relationalField (m : Mapper) (a : Attribute) (label : Label) (qname : String) : Mapping :=
  if a.isList then m.listField a label qname
  else
    match m.ctx.forest.lookup qname with
    | none => m.missing a qname
    | some target =>
      if m.ctx.rules.skips (m.ctx.forest.nameOf target) m.parents then .skipped
      else if m.ctx.reach.isSimple target then m.selectionField a label qname target
      else if m.ctx.reach.isComplex target then m.linkField a label qname target
      else m.missing a qname

/-! ## Attributes -/

def typedField (m : Mapper) (a : Attribute) (label : Label) : TypeReference → Mapping
  | .datatype code => m.plainField a label code
  | .named qname => m.relationalField a label qname

/-- What an attribute becomes, and the used labels after it. -/
def map (m : Mapper) (used : List String) (a : Attribute) : Mapping × List String :=
  if m.isSkipped a then (.skipped, used)
  else
    match a.primaryType with
    | none => (.diagnostic (m.fieldName a) ("No type! " ++ m.place a), used)
    | some type =>
      let label := Label.extract m.ctx.config.labels.options used a.name a.documentation
      (m.typedField a label type, Label.use used label)

/-- What attributes become, one after the other. -/
def mapFrom (m : Mapper) (used : List String) : List Attribute → List Mapping
  | [] => []
  | a :: rest => (m.map used a).1 :: m.mapFrom (m.map used a).2 rest

def mappings (m : Mapper) : List Mapping := m.mapFrom [] m.owner.attributes

/-! ## Notes -/

def warning (m : Mapper) (a : Attribute) (text : String) : Note :=
  ⟨.warn, text ++ ": class " ++ m.owner.name ++ " attr " ++ a.name⟩

def plainNotes (m : Mapper) (a : Attribute) (code : String) : List Note :=
  if (m.plainKind? a code).isSome then []
  else [m.warning a ("datatype " ++ code ++ " not implemented")]

def emptyListNotes (m : Mapper) (a : Attribute) (qname : String) : List Note :=
  let isSkipped := (m.ctx.forest.lookup qname).any fun target =>
    m.ctx.rules.skips (m.ctx.forest.nameOf target) m.parents
  if isSkipped then [] else [m.warning a ("no complex type " ++ qname ++ " for list field")]

def relationalNotes (m : Mapper) (a : Attribute) (qname : String) : List Note :=
  match m.relationalField a ⟨"", none⟩ qname with
  | .field _ => []
  | .skipped => if a.isList then m.emptyListNotes a qname else []
  | .diagnostic _ message => [⟨.warn, message⟩]

def typeNotes (m : Mapper) (a : Attribute) : List Note :=
  match a.primaryType with
  | none => [m.warning a "attribute without type"]
  | some (.datatype code) => m.plainNotes a code
  | some (.named qname) => m.relationalNotes a qname

def notes (m : Mapper) (a : Attribute) : List Note :=
  if m.isSkipped a then []
  else
    (if a.types.length > 1 then
        [m.warning a "union types are not supported, using the first one"] else [])
      ++ (if a.tokens then [m.warning a "token lists are not supported"] else [])
      ++ (if a.mapLike then [m.warning a "map-like attributes are not supported"] else [])
      ++ m.typeNotes a

end Mapper

end SchemaModels

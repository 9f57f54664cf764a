/-
Reading bundles from documents.

Entries of a record may come in any order and each at most once; unknown ones are passed over,
except in type references.
-/
import SchemaModels.Bundle
import SchemaModels.Document.Json
import SchemaModels.Document.Reading
import SchemaModels.Document.Yaml.Tree

namespace SchemaModels
namespace Reading

/-! ## Attributes -/

def attributeKinds : List (String × AttributeKind) :=
  [("element", .element), ("attribute", .attr), ("text", .text), ("enumeration", .enumeration)]

def maxOccurs (node : Node) : Reading MaxOccurs := do
  match ← loose node with
  | .absent => return .unbounded
  | .natural n => if n < Text.wordLimit then return .bounded n else unfit
  | .text s =>
    if s = "unbounded" then return .unbounded
    else
      match Text.numeral? Text.wordLimit s.toList with
      | some n => return .bounded n
      | none => fault (.invalidMaxOccurs s)
  | .other => unfit

structure TypeEntries where
  datatype : Option (Option String) := none
  qname : Option (Option String) := none

def typeEntry (known : TypeEntries) (key : String) (value : Node) : Reading TypeEntries := do
  match key with
  | "datatype" => return { known with datatype := ← once known.datatype (optional text value) }
  | "class" => return { known with qname := ← once known.qname (optional text value) }
  | _ => unfit

def typeReference (depth : Nat) (node : Node) : Reading TypeReference := do
  let known ← record depth typeEntry {} node
  match known.datatype.join, known.qname.join with
  | some code, none => return .datatype code
  | none, some qname => return .named qname
  | some code, some qname => fault (.twoTargets code qname)
  | none, none => fault .noTarget

structure AttributeEntries where
  name : Option String := none
  documentation : Option (Option String) := none
  kind : Option AttributeKind := none
  minOccurs : Option Nat := none
  maxOccurs : Option MaxOccurs := none
  types : Option (List TypeReference) := none
  tokens : Option Bool := none
  mapLike : Option Bool := none

def attrEntry (depth : Nat) (known : AttributeEntries) (key : String) (value : Node) :
    Reading AttributeEntries := do
  match key with
  | "name" => return { known with name := ← once known.name (text value) }
  | "documentation" =>
    return { known with documentation := ← once known.documentation (optional text value) }
  | "kind" => return { known with kind := ← once known.kind (choice attributeKinds value) }
  | "min_occurs" =>
    return { known with minOccurs := ← once known.minOccurs (natural Text.wordLimit value) }
  | "max_occurs" => return { known with maxOccurs := ← once known.maxOccurs (maxOccurs value) }
  | "types" =>
    return { known with types := ← once known.types (list depth (typeReference (depth - 1)) value) }
  | "tokens" => return { known with tokens := ← once known.tokens (bool value) }
  | "map_like" => return { known with mapLike := ← once known.mapLike (bool value) }
  | _ => do
    pass value
    return known

def attr (depth : Nat) (node : Node) : Reading Attribute := do
  let known ← record depth (attrEntry (depth - 1)) {} node
  return {
    name := ← required known.name
    documentation := known.documentation.join
    kind := known.kind.getD .element
    minOccurs := known.minOccurs.getD 1
    maxOccurs := known.maxOccurs.getD (.bounded 1)
    types := ← required known.types
    tokens := known.tokens.getD false
    mapLike := known.mapLike.getD false }

/-! ## Classes -/

def classKinds : List (String × ClassKind) :=
  [("complex", .complex), ("enumeration", .enumeration)]

structure ValueEntries where
  value : Option String := none
  documentation : Option (Option String) := none

def valueEntry (known : ValueEntries) (key : String) (value : Node) : Reading ValueEntries := do
  match key with
  | "value" => return { known with value := ← once known.value (text value) }
  | "documentation" =>
    return { known with documentation := ← once known.documentation (optional text value) }
  | _ => do
    pass value
    return known

def enumValue (depth : Nat) (node : Node) : Reading EnumValue := do
  let known ← record depth valueEntry {} node
  return ⟨← required known.value, known.documentation.join⟩

structure ClassEntries where
  qname : Option String := none
  name : Option String := none
  kind : Option ClassKind := none
  location : Option (Option String) := none
  documentation : Option (Option String) := none
  attributes : Option (List Attribute) := none
  values : Option (List EnumValue) := none
  inner : Option (List ClassTree) := none

def classEntry (depth : Nat) (nested : Node → Reading ClassTree) (known : ClassEntries)
    (key : String) (value : Node) : Reading ClassEntries := do
  match key with
  | "qname" => return { known with qname := ← once known.qname (text value) }
  | "name" => return { known with name := ← once known.name (text value) }
  | "kind" => return { known with kind := ← once known.kind (choice classKinds value) }
  | "location" => return { known with location := ← once known.location (optional text value) }
  | "documentation" =>
    return { known with documentation := ← once known.documentation (optional text value) }
  | "attributes" =>
    return { known with
      attributes := ← once known.attributes (list depth (attr (depth - 1)) value) }
  | "values" =>
    return { known with values := ← once known.values (list depth (enumValue (depth - 1)) value) }
  | "inner" => return { known with inner := ← once known.inner (list depth nested value) }
  | _ => do
    pass value
    return known

def assembleClass (known : ClassEntries) : Reading ClassTree := do
  let decl : ClassDecl :=
    { qname := ← required known.qname
      name := ← required known.name
      kind := known.kind.getD .complex
      location := known.location.join
      documentation := known.documentation.join
      attributes := known.attributes.getD []
      values := known.values.getD [] }
  return .node decl (known.inner.getD [])

/-- The tree of a class, given how nested classes are read. -/
def classNode (depth : Nat) (nested : Node → Reading ClassTree) (node : Node) :
    Reading ClassTree := do
  assembleClass (← record (depth + 1) (classEntry depth nested) {} node)

/-- A class with the classes nested in it: each nesting takes two levels, a record and a list. -/
def classTree : Nat → Node → Reading ClassTree
  | 0, _ => unfit
  | 1, node => classNode 0 (fun _ => unfit) node
  | below + 2, node => classNode (below + 1) (classTree below) node

/-! ## Bundles -/

/-- Groups of qualified names: a group that is given again keeps its place. -/
def groups (depth : Nat) (node : Node) : Reading (Groups String) :=
  record depth (fun known path value => return known.insert path (← list (depth - 1) text value))
    [] node

structure BundleEntries where
  classes : Option (List ClassTree) := none
  modules : Option (Groups String) := none
  packages : Option (Groups String) := none

def bundleEntry (depth : Nat) (known : BundleEntries) (key : String) (value : Node) :
    Reading BundleEntries := do
  match key with
  | "classes" =>
    return { known with classes := ← once known.classes (list depth (classTree (depth - 1)) value) }
  | "modules" => return { known with modules := ← once known.modules (groups depth value) }
  | "packages" => return { known with packages := ← once known.packages (groups depth value) }
  | _ => do
    pass value
    return known

def bundle (depth : Nat) (node : Node) : Reading Bundle := do
  let known ← record depth (bundleEntry (depth - 1)) {} node
  return ⟨← required known.classes, known.modules.getD [], known.packages.getD []⟩

end Reading

def Document.ofText : BundleFormat → String → Document
  | .json, text => .ofJson text
  | .yaml, text => .ofYaml text

def Bundle.ofText (format : BundleFormat) (text : String) : Except LoadError Bundle :=
  match (Document.ofText format text).decode Reading.bundle with
  | .ok bundle => .ok bundle
  | .error fault => .error (.unreadable format fault)

def Model.ofText (format : BundleFormat) (text : String) : Except LoadError Model := do
  (← Bundle.ofText format text).model

end SchemaModels

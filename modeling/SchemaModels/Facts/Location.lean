/-
Finding the declaration of a class in a schema.

The outermost class is a named type or an element of the schema itself.  A nested class is an
element with a type of its own, found inside the type of the class around it.
-/
import SchemaModels.Forest
import SchemaModels.Xml.Element

namespace SchemaModels

open Xml (Element Placed)

/-- Where a class is declared: its complex type, and the element if the type is anonymous. -/
@[ext]
structure Located where
  complexType : Placed
  element : Option Placed

def anonymous? (name : String) (e : Placed) : Option Located :=
  if e.attr? "name" = some name then
    (e.child? "complexType").map fun complexType => ⟨complexType, some e⟩
  else none

def topLevelIn? (name : String) (e : Placed) : Option Located :=
  if e.attr? "name" ≠ some name then none
  else if e.name = "complexType" then some ⟨e, none⟩
  else if e.name = "element" then anonymous? name e
  else none

def topLevel? (schema : Element) (name : String) : Option Located :=
  (Placed.children ⟨[], schema⟩).findSome? (topLevelIn? name)

def scopeNames : List String := ["complexType", "element"]

def nestedIn? (name : String) (e : Placed) : Option Located :=
  if e.name = "element" then anonymous? name e else none

/-- The declaration of a class nested in the class with the given complex type. -/
def nested? (complexType : Placed) (name : String) : Option Located :=
  ((Placed.outside scopeNames).walk complexType.children).findSome? (nestedIn? name)

def followNames (found : Located) : List String → Option Located
  | [] => some found
  | name :: rest => do followNames (← nested? found.complexType name) rest

/-- The declaration of the class at the end of a chain of nested classes, by their names. -/
def locate? (schema : Element) : List String → Option Located
  | [] => none
  | name :: rest => do followNames (← topLevel? schema name) rest

/-! ## Documentation -/

/-- The documentation of an element: its texts without white space around, each on a line. -/
def documentationOf (e : Element) : Option String := do
  let remark ← e.child? "annotation"
  let texts := (remark.children.filter fun c => c.name == "documentation").map fun c =>
    String.ofList (Text.trim c.text.toList)
  let text := "\n".intercalate (texts.filter fun t => !t.isEmpty)
  if text.isEmpty then none else some text

/-- The documentation of a class: of its element, else of its type. -/
def Located.documentation (found : Located) : Option String :=
  (found.element.bind fun e => documentationOf e.element)
    <|> documentationOf found.complexType.element

end SchemaModels

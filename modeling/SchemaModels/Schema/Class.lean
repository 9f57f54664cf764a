/-
Schema classes: complex types and enumerations with their attributes.

A class is declared together with the classes nested in it, which makes a bundle a list of trees.
-/
import SchemaModels.Text.Split

namespace SchemaModels

inductive ClassKind where
  | complex
  | enumeration
deriving Repr, DecidableEq, Inhabited

structure EnumValue where
  value : String
  documentation : Option String
deriving Repr, DecidableEq

inductive AttributeKind where
  | element
  | attr
  | text
  | enumeration
deriving Repr, DecidableEq, Inhabited

inductive MaxOccurs where
  | bounded (n : Nat)
  | unbounded
deriving Repr, DecidableEq

def MaxOccurs.isMany : MaxOccurs → Bool
  | bounded n => n > 1
  | unbounded => true

inductive TypeReference where
  /-- A builtin datatype, by its code. -/
  | datatype (code : String)
  /-- A class of the bundle, by its qualified name. -/
  | named (qname : String)
deriving Repr, DecidableEq

structure Attribute where
  name : String
  documentation : Option String := none
  kind : AttributeKind := .element
  minOccurs : Nat := 1
  maxOccurs : MaxOccurs := .bounded 1
  types : List TypeReference
  /-- A list of tokens separated by white space. -/
  tokens : Bool := false
  /-- A wildcard that takes any name. -/
  mapLike : Bool := false
deriving Repr, DecidableEq

namespace Attribute

def isList (a : Attribute) : Bool := a.maxOccurs.isMany

/-- The attribute holds exactly one value. -/
def isRequired (a : Attribute) : Bool := a.minOccurs > 0 && !a.isList

/-- The type that counts: of a union, its first member. -/
def primaryType (a : Attribute) : Option TypeReference := a.types.head?

end Attribute

structure ClassDecl where
  qname : String
  name : String
  kind : ClassKind := .complex
  /-- The schema file in which the class is declared. -/
  location : Option String := none
  documentation : Option String := none
  attributes : List Attribute := []
  values : List EnumValue := []
deriving Repr, DecidableEq

/-- A class with the classes nested in it, in order of declaration. -/
inductive ClassTree where
  | node (decl : ClassDecl) (inner : List ClassTree)

def localName (qname : String) : String :=
  match Text.splitLast? ['\x7d'] qname.toList with
  | some (_, name) => String.ofList name
  | none => qname

end SchemaModels

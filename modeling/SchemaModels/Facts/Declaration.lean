/-
What a complex type of a schema declares.

The elements and attributes of a complex type are found in document order, below the compositors
that group them but not inside other types or elements.  Each is known with the compositors around
it.  The groups of a choice are numbered in the order in which their first member is met, and a
choice has to be made if nothing around the member is optional.
-/
import SchemaModels.Text.Case
import SchemaModels.Text.Split
import SchemaModels.Xml.Element

namespace SchemaModels

open Xml (Placed)

structure Fact where
  /-- The type in the schema, without its prefix. -/
  type : Option String := none
  /-- The group of alternatives it belongs to. -/
  choice : Option String := none
  /-- One alternative of the group has to be present. -/
  choiceRequired : Bool := false
deriving Repr, DecidableEq

/-- What follows the last colon of a name. -/
def withoutPrefix (name : String) : String :=
  match Text.splitLast? [':'] name.toList with
  | some (_, name) => String.ofList name
  | none => name

/-- The name of a group of alternatives of a class: the first has the name of the class. -/
def choiceName (className : String) (index : Nat) : String :=
  let base := String.ofList (Text.lowerAll className.toList)
  if index > 1 then base ++ toString index else base

/-! ## Finding declarations -/

def compositorNames : List String := ["sequence", "choice", "all"]

def declarationNames : List String := ["element", "attribute"]

/-- The elements that are not entered: what stands in them belongs to a declaration or to another
type, or declares nothing. -/
def closedNames : List String := ["complexType", "annotation"] ++ declarationNames

/-- An element below a complex type with the compositors around it, outermost first. -/
structure Enclosed where
  node : Placed
  around : List Placed

namespace Enclosed

def aroundInner (e : Enclosed) : List Placed :=
  if compositorNames.contains e.node.name then e.around ++ [e.node] else e.around

def inner (e : Enclosed) : List Enclosed :=
  if closedNames.contains e.node.name then []
  else e.node.children.map fun c => ⟨c, e.aroundInner⟩

def nesting : Nesting Enclosed where
  inner := inner
  weight e := e.node.size
  lighter e := by
    have := e.node.total_size_children_lt
    rw [inner]
    split
    · exact Nat.zero_lt_of_lt this
    · rwa [total_map]

def isDeclaration (e : Enclosed) : Bool := declarationNames.contains e.node.name

def name? (d : Enclosed) : Option String :=
  (d.node.attr? "name" <|> d.node.attr? "ref").map withoutPrefix

/-- The type: as given, or the base of the simple type inside. -/
def type? (d : Enclosed) : Option String :=
  match d.node.attr? "type" with
  | some type => some (withoutPrefix type)
  | none => do
    let simpleType ← d.node.child? "simpleType"
    let restriction ← simpleType.child? "restriction"
    return withoutPrefix (← restriction.attr? "base")

/-- The place of the innermost choice around the declaration. -/
def choicePlace? (d : Enclosed) : Option (List Nat) :=
  (d.around.reverse.find? fun c => c.name == "choice").map fun c => c.place

/-- Nothing around the declaration is optional. -/
def isInevitable (d : Enclosed) : Bool := d.around.all fun c => c.attr? "minOccurs" != some "0"

end Enclosed

/-- The declarations of a complex type, in document order. -/
def declarationsOf (complexType : Placed) : List Enclosed :=
  (Enclosed.nesting.walk (complexType.children.map fun c => ⟨c, []⟩)).filter Enclosed.isDeclaration

/-! ## Numbering choices -/

def addChoice (choices : List (List Nat)) (d : Enclosed) : List (List Nat) :=
  match d.choicePlace? with
  | none => choices
  | some place => if choices.contains place then choices else choices ++ [place]

def Enclosed.fact (className : String) (choices : List (List Nat)) (d : Enclosed) : Fact :=
  match d.choicePlace? with
  | none => { type := d.type? }
  | some place =>
    { type := d.type?
      choice := some (choiceName className (choices.idxOf place + 1))
      choiceRequired := d.isInevitable }

def factsFrom (className : String) (choices : List (List Nat)) :
    List Enclosed → List (String × Fact)
  | [] => []
  | d :: rest =>
    match d.name? with
    | none => factsFrom className choices rest
    | some name =>
      let choices := addChoice choices d
      (name, d.fact className choices) :: factsFrom className choices rest

/-- The facts that a complex type holds for the class with the given name. -/
def factsOf (complexType : Placed) (className : String) : List (String × Fact) :=
  factsFrom className [] (declarationsOf complexType)

end SchemaModels

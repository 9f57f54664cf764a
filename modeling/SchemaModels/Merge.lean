/-
Merging attributes that a class declares more than once.

The same element may stand in several branches of a choice or in repeated sequences.  The elements
and text nodes of a class are merged by name and kind: the first one stays, takes the smaller lower
bound, the upper bound that the policy finds, the first documentation there is, and every type not
listed yet.  XML attributes and enumeration members are never merged.
-/
import SchemaModels.Forest
import SchemaModels.Text.Numeral

namespace SchemaModels

inductive MergePolicy where
  /-- The smaller bound: alternatives of a choice stay single values. -/
  | minimum
  /-- The sum of the bounds: alternatives of a choice become lists. -/
  | sum
deriving Repr, DecidableEq, Inhabited

namespace MergePolicy

/-- The upper bound of two merged attributes.  A sum that is too large for a word is the largest
word. -/
def combine : MergePolicy → MaxOccurs → MaxOccurs → MaxOccurs
  | .minimum, .bounded a, .bounded b => .bounded (min a b)
  | .minimum, .bounded a, .unbounded => .bounded a
  | .minimum, .unbounded, b => b
  | .sum, .bounded a, .bounded b => .bounded (min (a + b) (Text.wordLimit - 1))
  | .sum, _, _ => .unbounded

end MergePolicy

namespace Attribute

def isMergeable (a : Attribute) : Bool :=
  match a.kind with
  | .element | .text => true
  | .attr | .enumeration => false

/-- The attributes have one name and kind. -/
def sameSlot (a b : Attribute) : Bool := a.name == b.name && a.kind == b.kind

def unionTypes (first other : List TypeReference) : List TypeReference :=
  other.foldl (fun types t => if types.contains t then types else types ++ [t]) first

/-- The first attribute after a further one of its slot is merged into it, given how upper bounds
are combined. -/
def absorb (combine : MaxOccurs → MaxOccurs → MaxOccurs) (first other : Attribute) : Attribute :=
  { first with
    documentation := first.documentation <|> other.documentation
    minOccurs := min first.minOccurs other.minOccurs
    maxOccurs := combine first.maxOccurs other.maxOccurs
    types := unionTypes first.types other.types }

def mergeInto (combine : MaxOccurs → MaxOccurs → MaxOccurs) (a : Attribute) :
    List Attribute → List Attribute
  | [] => [a]
  | first :: rest =>
    if first.sameSlot a then absorb combine first a :: rest
    else first :: mergeInto combine a rest

def merge (combine : MaxOccurs → MaxOccurs → MaxOccurs) (attrs : List Attribute) :
    List Attribute :=
  attrs.foldl (fun merged a => if a.isMergeable then mergeInto combine a merged else merged ++ [a])
    []

def repeated : List Attribute → List Attribute → List Attribute
  | _, [] => []
  | earlier, a :: rest =>
    if a.isMergeable && earlier.any a.sameSlot then a :: repeated earlier rest
    else repeated (a :: earlier) rest

end Attribute

namespace Forest

/-- The forest with the repeated attributes of every class merged. -/
def merge (policy : MergePolicy) (f : Forest) : Forest :=
  f.mapAttributes fun c => Attribute.merge policy.combine c.attributes

end Forest

end SchemaModels

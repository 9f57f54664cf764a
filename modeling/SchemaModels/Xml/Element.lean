/-
Elements of XML documents: a local name, attributes by local name, the text directly inside, and the
elements inside in order.

An element does not know where it stands, and two elements of a document can be equal.  A placed
element carries its place, which no other element of the document has.
-/
import SchemaModels.Nesting

namespace SchemaModels
namespace Xml

inductive Element where
  | node (name : String) (attrs : List (String × String)) (text : String) (children : List Element)

namespace Element

def name : Element → String
  | node name _ _ _ => name

def attrs : Element → List (String × String)
  | node _ attrs _ _ => attrs

def text : Element → String
  | node _ _ text _ => text

def children : Element → List Element
  | node _ _ _ children => children

def attr? (e : Element) (name : String) : Option String := e.attrs.lookup name

def child? (e : Element) (name : String) : Option Element :=
  e.children.find? fun c => c.name == name

mutual

def size : Element → Nat
  | node _ _ _ children => 1 + sizeAll children

def sizeAll : List Element → Nat
  | [] => 0
  | e :: rest => size e + sizeAll rest

end

theorem sizeAll_eq_total : ∀ elements : List Element, sizeAll elements = total size elements
  | [] => rfl
  | e :: rest => by rw [sizeAll, total_cons, sizeAll_eq_total rest]

theorem size_eq (e : Element) : e.size = 1 + total size e.children := by
  cases e with
  | node name attrs text inner => rw [size, sizeAll_eq_total, children]

end Element

/-! ## Places -/

/-- An element at its place in a document: at each level from the outermost element down, how many
elements come before. -/
@[ext]
structure Placed where
  place : List Nat
  element : Element

namespace Placed

def name (p : Placed) : String := p.element.name

def attr? (p : Placed) (name : String) : Option String := p.element.attr? name

def children (p : Placed) : List Placed :=
  p.element.children.zipIdx.map fun (e, i) => ⟨p.place ++ [i], e⟩

def child? (p : Placed) (name : String) : Option Placed :=
  p.children.find? fun c => c.name == name

def size (p : Placed) : Nat := p.element.size

theorem total_size_children (p : Placed) :
    total size p.children = total Element.size p.element.children := by
  calc total size p.children
      = total (fun a => a.1.size) p.element.children.zipIdx := total_map _ _ _
    _ = total Element.size (p.element.children.zipIdx.map Prod.fst) := (total_map _ _ _).symm
    _ = total Element.size p.element.children := by rw [List.zipIdx_map_fst]

theorem total_size_children_lt (p : Placed) : total size p.children < p.size := by
  rw [total_size_children, size, Element.size_eq]
  omega

def outside (closed : List String) : Nesting Placed where
  inner p := if closed.contains p.name then [] else p.children
  weight := size
  lighter p := by
    have := p.total_size_children_lt
    split
    · exact Nat.zero_lt_of_lt this
    · exact this

end Placed

end Xml
end SchemaModels

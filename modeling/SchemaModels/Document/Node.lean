/-
Documents: what a text in a data format says, before it is known what it should say.

A scalar has no type of its own.  It is kept as what it reads as under each wish a reader can have,
so readers need not know the format.  A text that breaks off gives a document with `broken` at the
place where it breaks; nothing stands after that.  What comes before can still be read, and a fault
in it is found first, as a reader who goes through the text in order would find it.
-/

namespace SchemaModels

inductive LooseValue where
  | absent
  | natural (n : Nat)
  | text (s : String)
  /-- A truth value, a number that is not natural, or a value of unknown type. -/
  | other
deriving Repr, DecidableEq

structure Scalar where
  text : Option String := none
  /-- Whether it stands for a missing value; undecided if it claims so and holds something else. -/
  absent : Option Bool := some false
  /-- It stands for a list or record without entries. -/
  blank : Bool := false
  bool : Option Bool := none
  natural : Option Nat := none
  /-- The name of an alternative. -/
  choice : Option String := none
  loose : LooseValue := .other
deriving Repr, DecidableEq

inductive Node where
  | scalar (s : Scalar)
  | list (items : List Node)
  | record (entries : List (Node × Node))
  /-- Another value again, by the number of its anchor. -/
  | reference (id : Nat)
  /-- The place where the text breaks. -/
  | broken
deriving Repr

structure Document where
  root : Node
  anchors : List (Nat × Node) := []
  /-- How often aliases may be followed. -/
  jumps : Nat := 0
  /-- How deep lists and records may be nested. -/
  depth : Nat
  /-- An alternative may be written as a record with its name and nothing behind it. -/
  choiceRecords : Bool := false
  /-- The text goes well to its end and holds no second document. -/
  sound : Bool

namespace Node

mutual

def isBroken : Node → Bool
  | scalar _ => false
  | list items => anyBroken items
  | record entries => anyEntryBroken entries
  | reference _ => false
  | broken => true

def anyBroken : List Node → Bool
  | [] => false
  | node :: rest => node.isBroken || anyBroken rest

def anyEntryBroken : List (Node × Node) → Bool
  | [] => false
  | (key, value) :: rest => key.isBroken || value.isBroken || anyEntryBroken rest

end

end Node

end SchemaModels

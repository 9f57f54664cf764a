/-
The classes reached from packages and modules, by kind, in the order in which they are first met.

Each list has a set of its members beside it, which is asked whether a class is there.
-/
import SchemaModels.Forest

namespace SchemaModels

structure Reach where
  /-- Enumerations. -/
  simple : List Nat := []
  /-- Complex classes. -/
  complex : List Nat := []
  /-- The enumerations again, in no particular order. -/
  simpleSet : List Nat := []
  /-- The complex classes again, in no particular order. -/
  complexSet : List Nat := []
  /-- The set of enumerations has the members of their list. -/
  mem_simpleSet : ∀ id, id ∈ simpleSet ↔ id ∈ simple := by simp
  /-- The set of complex classes has the members of their list. -/
  mem_complexSet : ∀ id, id ∈ complexSet ↔ id ∈ complex := by simp
deriving Repr, DecidableEq

namespace Reach

/-- What is put in front of a set is put at the end of its list. -/
theorem mem_cons_iff_mem_concat {set items : List Nat} (h : ∀ id, id ∈ set ↔ id ∈ items)
    (new : Nat) : ∀ id, id ∈ new :: set ↔ id ∈ items ++ [new] := by
  intro id
  rw [List.mem_cons, List.mem_append, List.mem_singleton, h, or_comm]

/-- Add one class to those of its kind, unless it is there. -/
def add (f : Forest) (reach : Reach) (id : Nat) : Reach :=
  match f.get? id with
  | none => reach
  | some c =>
    if c.isEnumeration then
      if reach.simpleSet.contains id then reach
      else
        { reach with
          simple := reach.simple ++ [id]
          simpleSet := id :: reach.simpleSet
          mem_simpleSet := mem_cons_iff_mem_concat reach.mem_simpleSet id }
    else
      if reach.complexSet.contains id then reach
      else
        { reach with
          complex := reach.complex ++ [id]
          complexSet := id :: reach.complexSet
          mem_complexSet := mem_cons_iff_mem_concat reach.mem_complexSet id }

def addFrom (f : Forest) (reach : Reach) (roots : List Nat) : Reach :=
  (f.walk roots).foldl (add f) reach

def isSimple (reach : Reach) (id : Nat) : Bool := reach.simpleSet.contains id

def isComplex (reach : Reach) (id : Nat) : Bool := reach.complexSet.contains id

end Reach

end SchemaModels

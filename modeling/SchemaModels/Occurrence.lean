/-
Occurrences: the ways of reaching a class from the roots.

A class nested in others is reached from each of the roots above it, and its path, the names along
the way, is what it is called by.  Occurrences are listed in pre-order, each class with each path
once.
-/
import SchemaModels.ClassName
import SchemaModels.Forest

namespace SchemaModels

@[ext]
structure Occurrence where
  id : Nat
  /-- The classes from the root down to the class itself. -/
  lineage : List Nat
  /-- Their names. -/
  path : List String
deriving Repr, DecidableEq

namespace Occurrence

def key (o : Occurrence) : String := ".".intercalate o.path

def leaf (o : Occurrence) : String := o.path.getLast?.getD ""

/-- What tells an occurrence from others: its class and its dotted path. -/
def site (o : Occurrence) : Nat × String := (o.id, o.key)

def same (o p : Occurrence) : Bool := o.id == p.id && o.path == p.path

end Occurrence

namespace Forest

def pathName (f : Forest) (id : Nat) : String := className (f.nameOf id)

def rootOccurrence (f : Forest) (id : Nat) : Occurrence := ⟨id, [id], [f.pathName id]⟩

/-- The occurrence of a class that is nested in the class of another occurrence. -/
def innerOccurrence (f : Forest) (o : Occurrence) (id : Nat) : Occurrence :=
  ⟨id, o.lineage ++ [id], o.path ++ [f.pathName id]⟩

/-- The occurrences one step further down; no lineage has a class twice. -/
def innerOccurrences (f : Forest) (o : Occurrence) : List Occurrence :=
  ((f.innerOf o.id).filter fun id => !o.lineage.contains id).map (f.innerOccurrence o)

def occurrenceNesting (f : Forest) : Nesting Occurrence where
  inner := f.innerOccurrences
  weight := fun o => f.weight o.id
  lighter := fun o => by
    have hle := total_filter_le f.weight (fun id => !o.lineage.contains id) (f.innerOf o.id)
    rw [f.weight_eq o.id, innerOccurrences, total_map]
    exact Nat.lt_one_add_iff.mpr hle

/-- The occurrences reached from several roots in pre-order, those of one class with one dotted path
once, where they are met first. -/
def occurrences (f : Forest) (roots : List Nat) : List Occurrence :=
  f.occurrenceNesting.visit Occurrence.site ((f.known roots).map f.rootOccurrence)

end Forest

end SchemaModels

/-
The keys that lists need.

A list of nested models is reached through a key on its items that leads back to the owner.  The
items do not mention their owner, so the keys of all lists are gathered first.  Each key belongs to
the registry name of the item and says which model owns the list and what the key is called.
-/
import SchemaModels.FieldName
import SchemaModels.Listing
import SchemaModels.Reach
import SchemaModels.Registry
import SchemaModels.Skip

namespace SchemaModels

structure InverseKey where
  parent : String
  fieldName : String
deriving Repr, DecidableEq

/-- The keys of each model, by registry name, in the order in which they were registered. -/
structure InverseTable where
  entries : Listing String InverseKey := []
deriving Repr, DecidableEq

namespace InverseTable

def get (table : InverseTable) (child : String) : List InverseKey := table.entries.under child

def hasKey (table : InverseTable) (child : String) (key : InverseKey) : Bool :=
  (table.get child).contains key

def register (table : InverseTable) (child : String) (key : InverseKey) : InverseTable :=
  if table.hasKey child key then table else ⟨table.entries.file child key⟩

def size (table : InverseTable) : Nat :=
  table.entries.foldl (fun n entry => n + entry.2.length) 0

def isEmpty (table : InverseTable) : Bool := table.entries.isEmpty

end InverseTable

def Forest.lineageNames (f : Forest) (lineage : List Nat) : List String := lineage.map f.nameOf

/-- The model that a list attribute holds, if it is one: the attribute and the model are not
skipped, and the model is known and reached. -/
def listTarget (f : Forest) (reach : Reach) (rules : SkipRules) (parents : List String)
    (a : Attribute) : Option Nat :=
  if !a.isList || rules.skips a.name parents then none
  else
    match a.primaryType with
    | some (.named qname) =>
      match f.lookup qname with
      | some target =>
        if !reach.isComplex target || rules.skips (f.nameOf target) parents then none
        else some target
      | none => none
    | _ => none

structure InverseSource where
  forest : Forest
  names : Registry
  reach : Reach
  rules : SkipRules
  naming : FieldNaming

structure InverseRequest where
  child : String
  key : InverseKey
  /-- The name of the class that has the list. -/
  owner : String
  /-- The name of the list. -/
  name : String
deriving Repr, DecidableEq

namespace InverseSource

def requestOf (src : InverseSource) (o : Occurrence) (parent : RegistryEntry) (c : SchemaClass)
    (a : Attribute) : Option InverseRequest := do
  let target ← listTarget src.forest src.reach src.rules (src.forest.lineageNames o.lineage) a
  let child ← src.names.forReference target o.lineage
  return ⟨child.registryName,
    ⟨parent.registryName, src.naming.inverseFieldName a.name c.name⟩, c.name, a.name⟩

/-- The keys that an occurrence asks for: none unless it is a model that is not skipped. -/
def requests (src : InverseSource) (o : Occurrence) : List InverseRequest :=
  match src.forest.get? o.id, src.names.get? o with
  | some c, some parent =>
    if !c.isComplex || src.rules.skipsLineage (src.forest.lineageNames o.lineage) then []
    else c.attributes.filterMap (src.requestOf o parent c)
  | _, _ => []

/-- The table after the keys that several occurrences ask for. -/
def collect (src : InverseSource) (table : InverseTable) (occurrences : List Occurrence) :
    InverseTable :=
  (occurrences.flatMap src.requests).foldl (fun table r => table.register r.child r.key) table

def newRequests (table : InverseTable) : List InverseRequest → List InverseRequest
  | [] => []
  | r :: rest =>
    if table.hasKey r.child r.key then newRequests table rest
    else r :: newRequests (table.register r.child r.key) rest

end InverseSource

end SchemaModels

/-
Registry names: one name for every occurrence of a class.

An occurrence is named after the shortest path that tells it from the other occurrences with the
same last name.  Different paths may still give the same slug, so a name that is taken gives way to
the full path, and that to the full path with a number.  Names are handed out in the order of the
occurrences and never taken back.

Beside the entries the registry keeps two indexes: the names that are taken, asked for every new
name, and the positions of the entries of each class, asked for every reference.
-/
import SchemaModels.Listing
import SchemaModels.Occurrence
import SchemaModels.Registry.ShortPath

namespace SchemaModels

structure RegistryEntry where
  id : Nat
  lineage : List Nat
  /-- The dotted path of the occurrence. -/
  path : String
  /-- The dotted path the names are made from. -/
  uniquePath : String
  registryName : String
deriving Repr, DecidableEq

/-- The name of the generated class: the path without its dots. -/
def RegistryEntry.modelName (e : RegistryEntry) : String :=
  String.ofList (e.uniquePath.toList.filter (· ≠ '.'))

/-- What an entry is filed under: its class and its dotted path. -/
def RegistryEntry.site (e : RegistryEntry) : Nat × String := (e.id, e.path)

/-- The names handed out so far, in order, under one schema and version. -/
structure Registry where
  schema : String
  version : String
  entries : List RegistryEntry := []
  /-- The registry names handed out so far, each once, in no particular order. -/
  taken : List String := []
  /-- The positions of the entries of each class, in the order in which they were filed. -/
  positions : Listing Nat Nat := []
deriving Repr, DecidableEq

namespace Registry

/-! ## Looking names up -/

def empty (schema version : String) : Registry := { schema, version }

def get? (r : Registry) (o : Occurrence) : Option RegistryEntry :=
  r.entries.find? fun e => e.site == o.site

def find? (r : Registry) (path : String) : Option RegistryEntry :=
  r.entries.find? fun e => e.path == path

def positionsOf (r : Registry) (id : Nat) : List Nat := r.positions.under id

def ofClass (r : Registry) (id : Nat) : List RegistryEntry :=
  (r.positionsOf id).filterMap fun i => r.entries[i]?

/-- How many classes two lineages share from the root down. -/
def sharedLength : List Nat → List Nat → Nat
  | a :: as, b :: bs => if a = b then sharedLength as bs + 1 else 0
  | _, _ => 0

/-- The first entry that shares the most with a lineage. -/
def closest (lineage : List Nat) : List RegistryEntry → Option RegistryEntry
  | [] => none
  | e :: rest =>
    match closest lineage rest with
    | none => some e
    | some best =>
      if sharedLength e.lineage lineage < sharedLength best.lineage lineage then some best
      else some e

/-- The occurrence of a class that is meant when a class with the given lineage refers to it. -/
def forReference (r : Registry) (target : Nat) (lineage : List Nat) : Option RegistryEntry :=
  closest lineage (r.ofClass target)

/-! ## Handing names out -/

def nameOf (r : Registry) (path : String) : String :=
  r.schema ++ "." ++ r.version ++ "." ++ slugify path

/-- The paths to try, in order: the short one, the full one, and the full one with a number from two
on.  One more number than there are taken names is enough to find a free one. -/
def candidates (r : Registry) (unique full : String) : List String :=
  unique :: full :: (List.range (r.taken.length + 1)).map fun k => full ++ toString (k + 2)

/-- The first path whose name is free. -/
def claim (r : Registry) (unique full : String) : String :=
  ((r.candidates unique full).find? fun path => !r.taken.contains (r.nameOf path)).getD full

/-- The shortest path that tells an occurrence from the others. -/
def uniquePath (occurrences : List Occurrence) (o : Occurrence) : List String :=
  let others := occurrences.filter fun p => p.leaf == o.leaf && !p.same o
  if others.isEmpty then [o.leaf] else ShortPath.shorten (others.map (·.path)) o.path

/-- File an entry: in the place of one with its class and path, or at the end. -/
def insert (r : Registry) (e : RegistryEntry) : Registry :=
  let position := r.entries.findIdx (·.site == e.site)
  { r with
    entries := if position < r.entries.length then r.entries.set position e else r.entries ++ [e]
    taken := r.taken.insert e.registryName
    positions := r.positions.file e.id position }

/-- The registry with a name for one more occurrence, unless it has one. -/
def addOccurrence (occurrences : List Occurrence) (r : Registry) (o : Occurrence) : Registry :=
  if (r.get? o).isSome then r
  else
    let path := r.claim (".".intercalate (uniquePath occurrences o)) o.key
    r.insert ⟨o.id, o.lineage, o.key, path, r.nameOf path⟩

/-- The registry with a name for every occurrence reached from the roots. -/
def resolve (f : Forest) (r : Registry) (roots : List Nat) : Registry :=
  let occurrences := f.occurrences roots
  occurrences.foldl (addOccurrence occurrences) r

end Registry

end SchemaModels

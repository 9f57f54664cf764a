/-
Facts from schema files.

A bundle does not say everything: the type an element has in the schema, the choices it takes part
in, and the documentation of a class can be missing.  They are read from the schema file in which
the class, or one around it, is declared.  Each class is looked up once; files and declarations that
cannot be found leave no facts.
-/
import SchemaModels.Facts.Declaration
import SchemaModels.Facts.Location
import SchemaModels.Xml.Reader

namespace SchemaModels

open Xml (Element)

structure FactTable where
  /-- Facts by key; a key that is set again has its last fact. -/
  facts : List (String × Fact) := []
  docs : List (Nat × String) := []
  /-- The classes that have been looked up. -/
  mined : List Nat := []
deriving Repr

def factKey (qname name : String) : String := qname ++ "#" ++ name

/-- Schema files by location: the root elements of those that are there and well-formed. -/
abbrev SchemaFiles := List (String × Element)

namespace SchemaFiles

def ofTexts (texts : String → Option String) (locations : List String) : SchemaFiles :=
  locations.eraseDups.filterMap fun location =>
    ((texts location).bind Xml.read?).map fun schema => (location, schema)

def get? (files : SchemaFiles) (location : String) : Option Element := files.lookup location

end SchemaFiles

namespace FactTable

def setFact : List (String × Fact) → String → Fact → List (String × Fact)
  | [], key, fact => [(key, fact)]
  | (k, f) :: rest, key, fact =>
    if k = key then (k, fact) :: rest else (k, f) :: setFact rest key fact

def get? (table : FactTable) (c : SchemaClass) (name : String) : Option Fact :=
  table.facts.lookup (factKey c.qname name)

/-- The documentation of a class: its own, or what has been learned. -/
def documentation (table : FactTable) (id : Nat) (c : SchemaClass) : Option String :=
  c.documentation <|> table.docs.lookup id

def size (table : FactTable) : Nat := table.facts.length

def isEmpty (table : FactTable) : Bool := table.facts.isEmpty

/-! ## Learning -/

def isDue (table : FactTable) (f : Forest) (id : Nat) : Bool :=
  (f.get? id).any SchemaClass.isComplex && !table.mined.contains id

/-- The schema file of a class: its own, or that of the closest class around it. -/
def schemaOf (f : Forest) (files : SchemaFiles) (lineage : List Nat) : Option Element :=
  (lineage.reverse.findSome? fun id => (f.get? id).bind fun c => c.location).bind files.get?

def learn (table : FactTable) (id : Nat) (c : SchemaClass) (found : Located) : FactTable :=
  { table with
    docs := match c.documentation, found.documentation with
      | none, some doc => (id, doc) :: table.docs
      | _, _ => table.docs
    facts := (factsOf found.complexType c.name).foldl
      (fun facts (name, fact) => setFact facts (factKey c.qname name) fact) table.facts }

/-- The table after the class at the end of a lineage has been looked up. -/
def mine (f : Forest) (files : SchemaFiles) (table : FactTable) (lineage : List Nat) : FactTable :=
  match lineage.getLast? with
  | none => table
  | some id =>
    match f.get? id with
    | none => table
    | some c =>
      if !table.isDue f id then table
      else
        let table := { table with mined := id :: table.mined }
        match (schemaOf f files lineage).bind fun schema =>
            locate? schema (lineage.map f.nameOf) with
        | none => table
        | some found => table.learn id c found

def isMissing (f : Forest) (files : SchemaFiles) (table : FactTable) (lineage : List Nat) : Bool :=
  lineage.getLast?.any (table.isDue f) &&
    (schemaOf f files lineage).any fun schema => (locate? schema (lineage.map f.nameOf)).isNone

end FactTable

end SchemaModels

/-
What is noted while a context is gathered.

The notes follow the order of the work: repeated attributes, names, keys, declarations that were not
found, and a count of everything.
-/
import SchemaModels.Context
import SchemaModels.Note

namespace SchemaModels

def Forest.mergeNotes (f : Forest) : List Note :=
  f.classes.toList.flatMap fun c => (Attribute.repeated [] c.attributes).map fun a =>
    ⟨.debug, "merging duplicate attribute " ++ c.name ++ "." ++ a.name⟩

def FactTable.missingNotes (f : Forest) (files : SchemaFiles) (table : FactTable) :
    List (List Nat) → List Note
  | [] => []
  | lineage :: rest =>
    let notes := (FactTable.mine f files table lineage).missingNotes f files rest
    if table.isMissing f files lineage then
      ⟨.debug, "no declaration found for " ++ f.nameOf (lineage.getLastD 0)⟩ :: notes
    else notes

namespace Context

def nameNotes (ctx : Context) : List Note :=
  ctx.names.entries.map fun e =>
    ⟨.debug, e.path ++ " (" ++ ctx.forest.qnameOf e.id ++ ") -> " ++ e.registryName⟩

def inverseNotes (ctx : Context) : List Note :=
  (InverseSource.newRequests {} (ctx.occurrences.flatMap ctx.inverseSource.requests)).map fun r =>
    ⟨.debug, "implicit inverse " ++ r.owner ++ "." ++ r.name ++ " on " ++ r.child⟩

def countNote (ctx : Context) : Note :=
  ⟨.info, "collected " ++ toString ctx.reach.complex.length ++ " complex types, "
    ++ toString ctx.reach.simple.length ++ " enumerations, "
    ++ toString ctx.names.entries.length ++ " registry names, "
    ++ toString ctx.inverses.size ++ " implicit inverses"⟩

def collectNotes (ctx : Context) (m : Model) (files : SchemaFiles) : List Note :=
  m.forest.mergeNotes ++ ctx.nameNotes ++ ctx.inverseNotes
    ++ FactTable.missingNotes ctx.forest files {} (ctx.occurrences.map fun o => o.lineage)
    ++ [ctx.countNote]

end Context

end SchemaModels

/-
What is noted while a module is written.

A module that is dropped is noted with the reason.  Otherwise enumerations come first, then each
model with its attributes; a selection whose enumeration no module holds is noted after the
attribute.
-/
import SchemaModels.Emission
import SchemaModels.Note

namespace SchemaModels
namespace Context

def dropNotes (ctx : Context) (module : String) (roots : List Nat) : List Note :=
  let skipped := (ctx.skippedOf roots).length
  let reason :=
    if maxSkippedClasses < skipped then toString skipped ++ " skipped classes"
    else "nothing to render"
  [⟨.info, "dropping module " ++ module ++ ": " ++ reason⟩]

def enumNotes (ctx : Context) (e : RegistryEntry) (c : SchemaClass) : List Note :=
  let doc := ctx.enumDoc e.id c
  let dropped := doc.items.length - doc.distinct.length
  if dropped = 0 then []
  else
    [⟨.debug, ctx.constantName e ++ ": dropped " ++ toString dropped ++ " duplicate values"⟩]

def enumsNotes (ctx : Context) (defined : List String) : List Occurrence → List Note
  | [] => []
  | o :: rest =>
    match ctx.names.get? o, ctx.forest.get? o.id with
    | some e, some c =>
      let constant := ctx.constantName e
      if defined.contains constant then ctx.enumsNotes defined rest
      else ctx.enumNotes e c ++ ctx.enumsNotes (constant :: defined) rest
    | _, _ => ⟨.warn, "no registry name for enumeration " ++ o.key⟩ :: ctx.enumsNotes defined rest

def homelessNotes (ctx : Context) (lineage : List Nat) (target : Nat) : List Note :=
  match ctx.names.forReference target lineage with
  | none => []
  | some e =>
    if (ctx.home? e.id).isSome then []
    else [⟨.debug, "enumeration " ++ e.uniquePath ++ " is not rendered in any module"⟩]

def attributeNotes (ctx : Context) (m : Mapper) (a : Attribute) : List Note :=
  m.notes a ++ (selectionTargets [(m.map [] a).1]).flatMap (ctx.homelessNotes m.occurrence.lineage)

def modelNotes (ctx : Context) (o : Occurrence) : List Note :=
  match ctx.names.get? o, ctx.forest.get? o.id with
  | some _, some c => c.attributes.flatMap (ctx.attributeNotes ⟨ctx, o, c⟩)
  | _, _ => [⟨.warn, "no registry name for class " ++ o.key ++ ", not rendered"⟩]

def emitNotes (ctx : Context) (module : String) (roots : List Nat) : List Note :=
  if ctx.isDropped roots then ctx.dropNotes module roots
  else
    ctx.enumsNotes [] (ctx.keptEnums roots) ++ (ctx.keptModels roots).flatMap ctx.modelNotes

end Context
end SchemaModels

/-
Outlines: texts, lists and maps of texts, for what a program has to say about a model.
-/
import SchemaModels.Context

namespace SchemaModels

inductive Outline where
  | text (value : String)
  | list (items : List Outline)
  | map (entries : List (String × Outline))

namespace Outline

def sorted (entries : List (String × Outline)) : Outline :=
  map (entries.mergeSort fun a b => a.1 ≤ b.1)

end Outline

namespace Context

def keyOutline (key : InverseKey) : Outline :=
  .map [("field_name", .text key.fieldName), ("parent", .text key.parent)]

def inversesOutline (ctx : Context) : Outline :=
  .sorted (ctx.inverses.entries.map fun (child, keys) => (child, .list (keys.map keyOutline)))

def moduleOutline (ctx : Context) (module : String × List Nat) : Outline :=
  .map [("classes", .list (module.2.map fun id => .text (ctx.forest.qnameOf id))),
    ("name", .text module.1)]

def entryOutline (ctx : Context) (e : RegistryEntry) : Outline :=
  .map [("class", .text (ctx.forest.qnameOf e.id)), ("path", .text e.path),
    ("unique_path", .text e.uniquePath)]

def namesOutline (ctx : Context) : Outline :=
  .sorted (ctx.names.entries.map fun e => (e.registryName, ctx.entryOutline e))

def outline (ctx : Context) : Outline :=
  .map [("implicit_inverses", ctx.inversesOutline),
    ("modules", .list (ctx.modules.map ctx.moduleOutline)),
    ("registry_names", ctx.namesOutline)]

end Context

end SchemaModels

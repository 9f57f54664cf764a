/-
Selection constants: the lists of values that enumerations become.

A constant is named after its enumeration in capitals.  The path is used instead of the plain name
where that alone would not tell it from others.
-/
import SchemaModels.Context
import SchemaModels.Text.Case

namespace SchemaModels

def capitals (s : String) : String := String.ofList (Text.upperAll s.toList)

/-- The name of a constant, before it is put in capitals: from the name of a class and the path of
its entry. -/
def constantBase (name path : String) : String :=
  if path.toList.contains '.' then
    String.ofList (path.toList.map fun c => if c = '.' then '_' else c)
  else if path = className name then name
  else path

namespace Context

def constantName (ctx : Context) (e : RegistryEntry) : String :=
  capitals (constantBase (ctx.forest.nameOf e.id) e.uniquePath)

/-- The constant that is meant when a class with the given lineage refers to an enumeration. -/
def selectionConstant (ctx : Context) (target : Nat) (lineage : List Nat) : Option String :=
  (ctx.names.forReference target lineage).map ctx.constantName

end Context

end SchemaModels

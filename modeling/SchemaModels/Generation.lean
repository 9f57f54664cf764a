/-
Generating the source of a model: one file for every module that is not dropped.
-/
import SchemaModels.Context.Notes
import SchemaModels.Emission.Notes

namespace SchemaModels

structure GeneratedFile where
  path : String
  /-- The dotted path of the module. -/
  title : String
  content : String
deriving Repr, DecidableEq

namespace Context

def file? (ctx : Context) (module : String × List Nat) : Option GeneratedFile :=
  (ctx.emit module.1 module.2).map fun source =>
    ⟨ModulePath.file module.1, module.1, source.render⟩

def files (ctx : Context) : List GeneratedFile := ctx.modules.filterMap ctx.file?

def filesNotes (ctx : Context) : List Note :=
  ctx.modules.flatMap (fun module => ctx.emitNotes module.1 module.2)
    ++ [⟨.info, "rendered " ++ toString ctx.files.length ++ " of "
        ++ toString ctx.modules.length ++ " modules"⟩]

end Context

namespace Model

/-- The files of a model under a configuration, given the texts of schema files by location. -/
def generate (m : Model) (config : Config) (texts : String → Option String) :
    Except ConfigError (List GeneratedFile) := do
  return (← Context.collect m config texts).files

def generateNotes (m : Model) (ctx : Context) (texts : String → Option String) : List Note :=
  ctx.collectNotes m (SchemaFiles.ofTexts texts m.locations) ++ ctx.filesNotes

end Model

end SchemaModels

/-
What the commands do.

Every command but `init` reads the configuration and then the bundle, whose format is known by the
ending of its name; schema files are looked up next to it.  The first fault ends the command and is
reported with its cause.
-/
import SchemaModels.Bundle.Reading
import SchemaModels.Command
import SchemaModels.Config.Reading
import SchemaModels.Generation
import SchemaModels.Outline.Json
import SchemaModels.Outline.Yaml
import SchemaModels.Session

namespace SchemaModels

structure Failure where
  message : String
  cause : Option String := none
deriving Repr, DecidableEq

namespace Failure

def setIn (s : String) : String :=
  String.ofList ([' ', ' ', ' ', ' ']
    ++ s.toList.flatMap fun c => if c = '\n' then ['\n', ' ', ' ', ' ', ' '] else [c])

def report (f : Failure) : String :=
  "Error: " ++ f.message ++ "\n"
    ++ (match f.cause with
      | some cause => "\nCaused by:\n" ++ setIn cause ++ "\n"
      | none => "")

end Failure

abbrev Steps := ExceptT Failure Session

namespace Steps

/-! ## Requests -/

def reportLine (s : String) : Steps Unit := ExceptT.lift (.say .report (s ++ "\n") (.done ()))

def print (s : String) : Steps Unit := ExceptT.lift (.say .output s (.done ()))

def read (path : String) : Steps (Except FileFault String) := ExceptT.lift (.read path .done)

def orFail {α : Type} (message : String) : Except FileFault α → Steps α
  | .ok a => pure a
  | .error fault => throw ⟨message, some fault.message⟩

def write (path text : String) : Steps Unit := do
  orFail ("failed to write " ++ path) (← ExceptT.lift (.write path text .done))

/-- Make a directory, called `kind` in messages. -/
def makeDirs (kind path : String) : Steps Unit := do
  orFail ("failed to create " ++ kind ++ " " ++ path) (← ExceptT.lift (.makeDirs path .done))

/-! ## Configuration and bundle -/

def configMessage (e : ConfigError) : String :=
  match e with
  | .unreadable => "failed to read config " ++ Config.fileName
  | .invalidSkipPattern pattern => "invalid skip pattern " ++ Text.quoted pattern
  | e => e.message?.getD ""

def loadMessage (e : LoadError) : String :=
  match e with
  | .unreadable format fault =>
    let name := match format with
      | .json => "JSON"
      | .yaml => "YAML"
    "failed to parse " ++ name
      ++ (match fault with
        | some fault => ": " ++ fault.message
        | none => "")
  | e => e.message?.getD ""

def orReject {α : Type} : Except ConfigError α → Steps α
  | .ok a => pure a
  | .error e => throw ⟨configMessage e, none⟩

/-- The text of the configuration, if the file is there. -/
def configText : Steps (Option String) := do
  match ← read Config.fileName with
  | .ok text => return some text
  | .error .isDirectory =>
    throw ⟨configMessage .unreadable ++ ": " ++ FileFault.isDirectory.message, none⟩
  | .error _ => return none

def config : Steps Config := do orReject (Config.ofText (← configText))

def formatOf (path : String) : BundleFormat :=
  if FilePath.extension? path = some "json" then .json else .yaml

def model (path : String) : Steps Model := do
  let text ← orFail ("failed to read " ++ path) (← read path)
  match Model.ofText (formatOf path) text with
  | .ok m => return m
  | .error e => throw ⟨"invalid bundle " ++ path, some (loadMessage e)⟩

/-- The texts of schema files next to a bundle, those that can be read. -/
def schemaTexts (bundle : String) : List String → Steps (List (String × String))
  | [] => pure []
  | location :: rest => do
    let answer ← read (FilePath.join (FilePath.parent bundle) location)
    let others ← schemaTexts bundle rest
    match answer with
    | .ok text => return (location, text) :: others
    | .error _ => return others

/-- What is known about a model whose bundle stands at a path. -/
def context (bundle : String) (m : Model) (config : Config) :
    Steps (Except ConfigError Context) := do
  let texts ← schemaTexts bundle m.locations
  return Context.collect m config fun location => texts.lookup location

/-! ## Generating -/

def writeFile (dir : String) (file : GeneratedFile) : Steps Unit := do
  let path := FilePath.join dir file.path
  makeDirs "directory" (FilePath.parent path)
  write path file.content
  reportLine ("  wrote " ++ path)

def writeFiles (dir : String) : List GeneratedFile → Steps Unit
  | [] => pure ()
  | file :: rest => do
    writeFile dir file
    writeFiles dir rest

/-- Format the files below a directory, if there are any. -/
def format (command dir : String) (files : List GeneratedFile) : Steps Unit := do
  if files.isEmpty then return
  let called := "\x60" ++ command ++ " format\x60"
  match ← ExceptT.lift (.format ⟨command, dir, files.map fun f => f.path⟩ .done) with
  | .formatted => reportLine ("  formatted with " ++ command)
  | .failed status printed => throw ⟨called ++ " failed (" ++ status ++ "):\n" ++ printed, none⟩
  | .unavailable fault =>
    throw ⟨"failed to run " ++ called ++ " in " ++ dir, some fault.message⟩

def generate (input output : Option String) (unformatted : Bool) : Steps Unit := do
  let config ← config
  let input := input.getD config.input
  let output := output.getD config.output
  let m ← model input
  reportLine ("Generating " ++ input ++ " → " ++ output)
  match ← context input m config with
  | .error e => throw ⟨"configuration error: " ++ configMessage e, some (configMessage e)⟩
  | .ok ctx =>
    let files := ctx.files
    makeDirs "output directory" output
    writeFiles output files
    if config.format.enabled && !unformatted then format config.format.command output files
    reportLine ("Generated " ++ toString files.length ++ " files in " ++ output)

/-! ## The other commands -/

def validate (input : String) : Steps Unit := do
  let config ← config
  let m ← model input
  let _ ← orReject (SkipRules.read config.skip)
  let _ ← orReject config.numeric.classifier
  let enumerations := m.forest.classes.toList.filter SchemaClass.isEnumeration
  reportLine ("Valid bundle: " ++ input)
  reportLine ("  Classes: " ++ toString m.forest.size)
  reportLine ("  Enumerations: " ++ toString enumerations.length)
  reportLine ("  Modules: " ++ toString m.modules.length)
  reportLine ("  Packages: " ++ toString m.packages.length)
  reportLine "Validation successful."

def inspect (input : String) (format : BundleFormat) : Steps Unit := do
  let config ← config
  let m ← model input
  let ctx ← orReject (← context input m config)
  match format with
  | .json => print ctx.outline.toJson
  | .yaml => print ctx.outline.toYaml

/-- Write the configuration that a new project starts with. -/
def init (force : Bool) : Steps Unit := do
  let isThere := match ← read Config.fileName with
    | .ok _ => true
    | .error fault => fault == .isDirectory
  if isThere && !force then
    throw ⟨Config.fileName ++ " already exists. Use --force to overwrite.", none⟩
  match ← ExceptT.lift (.write Config.fileName Config.template .done) with
  | .ok _ => reportLine ("Created " ++ Config.fileName)
  | .error fault => throw ⟨fault.message, none⟩

end Steps

/-! ## Command lines -/

namespace Command

def versionLine : String := "xso 0.3.0\n"

def steps : Command → Steps Unit
  | generate input output unformatted => Steps.generate input output unformatted
  | validate input => Steps.validate input
  | inspect input format => Steps.inspect input format
  | init force => Steps.init force
  | version => Steps.print versionLine

/-- Carry out a command and report its failure; the result is the exit code. -/
def session (command : Command) : Session Nat := do
  match ← command.steps.run with
  | .ok _ => return 0
  | .error failure => .say .report failure.report (.done 1)

def usage : String := "Usage: <generate|validate|inspect|init> [OPTIONS]\n"

def sessionOf (args : List String) : Session Nat :=
  match ofArgs? args with
  | some command => command.session
  | none => .say .report usage (.done 2)

end Command

end SchemaModels

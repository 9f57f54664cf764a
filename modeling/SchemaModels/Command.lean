/-
Commands, as they are given on a command line.

A command is named first.  Options with a value have a long name, followed by the value or by an
equals sign and the value, and a short name, behind which the value may stand at once.  No option is
given twice, and no value begins like an option.  What a line means otherwise is no command.
-/
import SchemaModels.Error
import SchemaModels.Text.Split

namespace SchemaModels

inductive Command where
  | generate (input output : Option String) (unformatted : Bool)
  | validate (input : String)
  | inspect (input : String) (format : BundleFormat)
  | init (force : Bool)
  /-- Tell name and version of the program. -/
  | version
deriving Repr, DecidableEq

namespace Command

/-! ## Options -/

structure OptionRule where
  name : String
  letter : Option Char := none
  takesValue : Bool := true

/-- The options of a line, by name, with their values. -/
abbrev Options := List (String × String)

/-- A value: not empty, and not like an option. -/
def value? (s : String) : Option String :=
  match s.toList with
  | [] => none
  | ['-'] => some s
  | '-' :: _ => none
  | _ => some s

def joined? (s : List Char) : Option String := if s.isEmpty then none else some (String.ofList s)

def withValue (name : String) (joined : Option (List Char)) (rest : List String) :
    Option ((String × String) × List String) :=
  match joined, rest with
  | some s, rest => (joined? s).map fun v => ((name, v), rest)
  | none, next :: rest => (value? next).map fun v => ((name, v), rest)
  | none, [] => none

def longOption (rules : List OptionRule) (body : List Char) (rest : List String) :
    Option ((String × String) × List String) :=
  let (name, joined) := match Text.splitFirst? ['='] body with
    | some (name, v) => (String.ofList name, some v)
    | none => (String.ofList body, none)
  match rules.find? fun rule => rule.name == name with
  | none => none
  | some rule =>
    if rule.takesValue then withValue rule.name joined rest
    else if joined.isSome then none else some ((rule.name, ""), rest)

def shortOption (rules : List OptionRule) (letter : Char) (body : List Char) (rest : List String) :
    Option ((String × String) × List String) :=
  match rules.find? fun rule => rule.letter == some letter with
  | none => none
  | some rule =>
    match body with
    | [] => withValue rule.name none rest
    | '=' :: body => withValue rule.name (some body) rest
    | body => withValue rule.name (some body) rest

def firstOption (rules : List OptionRule) (arg : String) (rest : List String) :
    Option ((String × String) × List String) :=
  match arg.toList with
  | '-' :: '-' :: body => longOption rules body rest
  | '-' :: letter :: body => shortOption rules letter body rest
  | _ => none

/-- The options of a line.  Each takes at least one argument, so as many steps as there are
arguments are enough. -/
def optionsIn (rules : List OptionRule) : Nat → List String → Option Options
  | _, [] => some []
  | 0, _ :: _ => none
  | steps + 1, arg :: rest => do
    let (option, rest) ← firstOption rules arg rest
    let others ← optionsIn rules steps rest
    if (others.lookup option.1).isSome then none else return option :: others

def options? (rules : List OptionRule) (args : List String) : Option Options :=
  optionsIn rules args.length args

/-! ## Commands -/

def inputRule : OptionRule := { name := "input", letter := some 'i' }

def outputRule : OptionRule := { name := "output", letter := some 'o' }

def formats : List (String × BundleFormat) := [("yaml", .yaml), ("json", .json)]

def ofArgs? : List String → Option Command
  | "generate" :: args => do
    let options ← options?
      [inputRule, outputRule, { name := "no-format", takesValue := false }] args
    return .generate (options.lookup "input") (options.lookup "output")
      (options.lookup "no-format").isSome
  | "validate" :: args => do
    let options ← options? [inputRule] args
    return .validate (← options.lookup "input")
  | "inspect" :: args => do
    let options ← options? [inputRule, { name := "format" }] args
    return .inspect (← options.lookup "input")
      (← formats.lookup ((options.lookup "format").getD "yaml"))
  | "init" :: args => do
    let options ← options? [{ name := "force", takesValue := false }] args
    return .init (options.lookup "force").isSome
  | "--version" :: _ | "-V" :: _ => return .version
  | _ => none

end Command

end SchemaModels

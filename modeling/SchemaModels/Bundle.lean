/-
Bundles, and the models they describe.

A bundle is a list of class trees with two groupings of classes by dotted paths: modules, the files
that are written, and packages, within which names are resolved.  The model of a bundle has its
classes in a forest and its groups by position.  It exists just if no qualified name is declared
twice and every group names classes of the bundle only.
-/
import SchemaModels.Forest.Flatten

namespace SchemaModels

/-- Groups of classes by dotted path, in order, each path once. -/
abbrev Groups (α : Type) := List (String × List α)

/-- Set the members of a group: at its place if it is there, else at the end. -/
def Groups.insert {α : Type} : Groups α → String → List α → Groups α
  | [], path, members => [(path, members)]
  | (p, ms) :: rest, path, members =>
    if p = path then (p, members) :: rest else (p, ms) :: Groups.insert rest path members

structure Bundle where
  classes : List ClassTree
  modules : Groups String := []
  packages : Groups String := []

/-- The classes of a bundle and its groups by position. -/
structure Model where
  forest : Forest
  modules : Groups Nat
  packages : Groups Nat

namespace Forest

def resolveGroup (f : Forest) (path : String) (members : List String) :
    Except LoadError (List Nat) :=
  members.mapM fun qname =>
    match f.lookup qname with
    | some id => .ok id
    | none => .error (.unknownClass path qname)

def resolveGroups (f : Forest) (groups : Groups String) : Except LoadError (Groups Nat) :=
  groups.mapM fun (path, members) => return (path, ← f.resolveGroup path members)

end Forest

namespace Model

def standardModule : String := "models"

/-- The package of a module: its path without the last segment. -/
def packageOf (path : String) : String :=
  match Text.splitLast? ['.'] path.toList with
  | some (package, _) => String.ofList package
  | none => ""

def addMembers (known : List Nat) (members : List Nat) : List Nat :=
  members.foldl (fun known id => if known.contains id then known else known ++ [id]) known

def addModule (packages : Groups Nat) (module : String × List Nat) : Groups Nat :=
  let package := packageOf module.1
  packages.insert package (addMembers ((packages.lookup package).getD []) module.2)

/-- The packages of modules, in the order in which they are first met. -/
def packagesOf (modules : Groups Nat) : Groups Nat := modules.foldl addModule []

end Model

/-- The model of a bundle.  Without modules all roots make up one module; without packages each
module belongs to the package its path names. -/
def Bundle.model (bundle : Bundle) : Except LoadError Model := do
  let forest ← Forest.flatten bundle.classes
  let modules ←
    if bundle.modules.isEmpty then pure [(Model.standardModule, forest.roots)]
    else forest.resolveGroups bundle.modules
  let packages ←
    if bundle.packages.isEmpty then pure (Model.packagesOf modules)
    else forest.resolveGroups bundle.packages
  return ⟨forest, modules, packages⟩

end SchemaModels

/-
Relative imports between generated modules, and the files of modules.

A module path is a list of names joined by dots; all but the last name its package.  The import
drops as many packages as the two paths do not share, one dot for the own package and one more for
each package left, and always leaves a name to import.
-/
import SchemaModels.Text.Split

namespace SchemaModels
namespace ModulePath

open Text

def segments (path : List Char) : List (List Char) := pieces (· == '.') path

def sharedCount {α : Type} [DecidableEq α] : List α → List α → Nat
  | a :: as, b :: bs => if a = b then sharedCount as bs + 1 else 0
  | _, _ => 0

def relative (source target : List (List Char)) : List Char :=
  let package := source.dropLast
  let common := min (sharedCount package target) (target.length - 1)
  List.replicate (1 + package.length - common) '.' ++ joinWith ['.'] (target.drop common)

def relativeImport (source target : String) : String :=
  String.ofList (relative (segments source.toList) (segments target.toList))

def file (path : String) : String :=
  String.ofList (path.toList.map fun c => if c = '.' then '/' else c) ++ ".py"

end ModulePath
end SchemaModels

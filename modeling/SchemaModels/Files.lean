/-
Text files in a tree of directories.

A path is followed name by name from a directory.  The empty name and `.` stay where they are, `..`
goes one up, and any other name leads down; each of them needs a directory to start from, so a path
that goes on behind a file leads nowhere.  Nothing outside the tree can be reached.
-/
import SchemaModels.Text.Split

namespace SchemaModels

inductive FileFault where
  | missing
  | present
  | notDirectory
  | isDirectory
  | system (text : String)
deriving Repr, DecidableEq

def FileFault.message : FileFault → String
  | missing => "No such file or directory (os error 2)"
  | present => "File exists (os error 17)"
  | notDirectory => "Not a directory (os error 20)"
  | isDirectory => "Is a directory (os error 21)"
  | system text => text

/-! ## Paths as texts -/

namespace FilePath

def names (path : String) : List String :=
  (Text.pieces (· == '/') path.toList).map String.ofList

def isAbsolute (path : String) : Bool := path.toList.head? == some '/'

/-- A path below a directory; an absolute path stays as it is. -/
def join (dir path : String) : String :=
  if isAbsolute path || dir.isEmpty then path
  else if dir.toList.getLast? == some '/' then dir ++ path
  else dir ++ "/" ++ path

def parent (path : String) : String :=
  match Text.splitLast? ['/'] path.toList with
  | some (dir, _) => String.ofList dir
  | none => ""

/-- What follows the last dot of the last name, unless the name has nothing before that dot. -/
def extension? (path : String) : Option String :=
  match Text.splitLast? ['.'] ((names path).getLastD "").toList with
  | some (stem, ending) => if stem.isEmpty then none else some (String.ofList ending)
  | none => none

end FilePath

/-! ## Trees -/

/-- Text files and directories, each by the names that lead to it. -/
structure FileTree where
  files : List (List String × String) := []
  /-- Directories that need not hold a file. -/
  dirs : List (List String) := []
deriving Repr, DecidableEq

namespace FileTree

def ofPaths (files : List (String × String)) : FileTree :=
  { files := files.map fun (path, text) => (FilePath.names path, text) }

def text? (tree : FileTree) (place : List String) : Option String := tree.files.lookup place

/-- A place is a directory if it is the root, if it was made, or if something lies below it. -/
def isDir (tree : FileTree) (place : List String) : Bool :=
  place.isEmpty || (tree.dirs.any fun dir => place.isPrefixOf dir)
    || tree.files.any fun (file, _) => place.isPrefixOf file && place != file

def step (tree : FileTree) (place : List String) (name : String) :
    Except FileFault (List String) :=
  if (tree.text? place).isSome then .error .notDirectory
  else if !tree.isDir place then .error .missing
  else if name = "" ∨ name = "." then .ok place
  else if name = ".." then (if place.isEmpty then .error .missing else .ok place.dropLast)
  else .ok (place ++ [name])

def follow (tree : FileTree) (path : String) : Except FileFault (List String) :=
  if path.isEmpty || FilePath.isAbsolute path then .error .missing
  else (FilePath.names path).foldlM tree.step []

def read (tree : FileTree) (path : String) : Except FileFault String := do
  let place ← tree.follow path
  match tree.text? place with
  | some text => .ok text
  | none => .error (if tree.isDir place then .isDirectory else .missing)

def read? (tree : FileTree) (path : String) : Option String := (tree.read path).toOption

/-! ## Writing -/

def setText : List (List String × String) → List String → String → List (List String × String)
  | [], place, text => [(place, text)]
  | (p, t) :: rest, place, text =>
    if p = place then (p, text) :: rest else (p, t) :: setText rest place text

def write (tree : FileTree) (path text : String) : Except FileFault FileTree := do
  let place ← tree.follow path
  if tree.isDir place then .error .isDirectory
  else .ok { tree with files := setText tree.files place text }

def makeDirsFrom (tree : FileTree) (place : List String) : List String → Except FileFault FileTree
  | [] => .ok tree
  | name :: rest => do
    let next ← tree.step place name
    if (tree.text? next).isSome then .error (if rest.isEmpty then .present else .notDirectory)
    else if tree.isDir next then tree.makeDirsFrom next rest
    else makeDirsFrom { tree with dirs := tree.dirs ++ [next] } next rest

def changes (tree other : FileTree) : List (List String × String) :=
  tree.files.filter fun (place, text) => other.text? place != some text

def makeDirs (tree : FileTree) (path : String) : Except FileFault FileTree :=
  if path.isEmpty then .ok tree
  else if FilePath.isAbsolute path then .error .missing
  else tree.makeDirsFrom [] (FilePath.names path)

end FileTree

end SchemaModels

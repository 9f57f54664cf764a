/-
Keyword arguments: named literals in the order in which they are written.
-/
import SchemaModels.Source.Literal

namespace SchemaModels

/-- Keyword arguments in order, each key once. -/
abbrev Keywords := List (String × Literal)

namespace Keywords

/-- Set a key: at its place if it is there, else at the end. -/
def insert : Keywords → String → Literal → Keywords
  | [], key, value => [(key, value)]
  | (k, v) :: rest, key, value =>
    if k = key then (k, value) :: rest else (k, v) :: insert rest key value

/-- Set several keys, one after the other. -/
def insertAll (kwargs more : Keywords) : Keywords :=
  more.foldl (fun kwargs entry => kwargs.insert entry.1 entry.2) kwargs

def get? (kwargs : Keywords) (key : String) : Option Literal := kwargs.lookup key

def hasKey (kwargs : Keywords) (key : String) : Bool := (kwargs.get? key).isSome

def keys (kwargs : Keywords) : List String := kwargs.map Prod.fst

/-- The entries with the given key, in order, and then the others. -/
def moveToFront (kwargs : Keywords) (key : String) : Keywords :=
  kwargs.filter (·.1 == key) ++ kwargs.filter (·.1 != key)

def moveToEnd (kwargs : Keywords) (key : String) : Keywords :=
  kwargs.filter (·.1 != key) ++ kwargs.filter (·.1 == key)

def render : Keywords → String
  | [] => ""
  | [(key, value)] => key ++ "=" ++ value.render
  | (key, value) :: next :: rest => key ++ "=" ++ value.render ++ ", " ++ render (next :: rest)

end Keywords

end SchemaModels

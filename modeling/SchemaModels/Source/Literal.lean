/-
Literals of the generated source: strings, truth values, numbers, tuples and bare names.

A string is written between double quotes with an escape for every character that could end it or
its line; carriage returns are left out.
-/

namespace SchemaModels

inductive Literal where
  | text (value : String)
  | bool (value : Bool)
  | int (value : Int)
  | tuple (items : List Literal)
  /-- A name defined elsewhere, such as a selection constant. -/
  | name (value : String)
deriving Repr, BEq

namespace Literal

def escapeChar (c : Char) : List Char :=
  if c = '\\' then ['\\', '\\']
  else if c = '"' then ['\\', '"']
  else if c = '\n' then ['\\', 'n']
  else if c = '\r' then []
  else if c = '\t' then ['\\', 't']
  else [c]

def escape (s : String) : String := String.ofList (s.toList.flatMap escapeChar)

def quote (s : String) : String := "\"" ++ escape s ++ "\""

mutual

def render : Literal → String
  | text value => quote value
  | bool true => "True"
  | bool false => "False"
  | int value => toString value
  | tuple items => "(" ++ renderItems items ++ (if items.length = 1 then "," else "") ++ ")"
  | name value => value

def renderItems : List Literal → String
  | [] => ""
  | [item] => render item
  | item :: next :: rest => render item ++ ", " ++ renderItems (next :: rest)

end

end Literal

end SchemaModels

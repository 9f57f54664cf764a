/-
Outlines in JSON: two spaces for each level, and nothing between the brackets of an empty list or
map.
-/
import SchemaModels.Outline

namespace SchemaModels
namespace Outline

/-! ## Texts -/

def twoDigits (n : Nat) : List Char := [Nat.digitChar (n / 16), Nat.digitChar (n % 16)]

/-- A character as it stands between quotes: quotes, backslashes and control characters are
escaped. -/
def jsonChar (c : Char) : List Char :=
  if c = '"' then ['\\', '"']
  else if c = '\\' then ['\\', '\\']
  else if c = '\n' then ['\\', 'n']
  else if c = '\r' then ['\\', 'r']
  else if c = '\t' then ['\\', 't']
  else if c.toNat = 8 then ['\\', 'b']
  else if c.toNat = 12 then ['\\', 'f']
  else if c.toNat < 32 then ['\\', 'u', '0', '0'] ++ twoDigits c.toNat
  else [c]

def jsonText (s : String) : String :=
  "\"" ++ String.ofList (s.toList.flatMap jsonChar) ++ "\""

/-! ## Lists and maps -/

def newLine (level : Nat) : String := String.ofList ('\n' :: List.replicate (2 * level) ' ')

mutual

def jsonAt (level : Nat) : Outline → String
  | text value => jsonText value
  | list [] => "[]"
  | list (item :: rest) =>
    "[" ++ newLine (level + 1) ++ jsonAt (level + 1) item ++ jsonItems (level + 1) rest
      ++ newLine level ++ "]"
  | map [] => "\x7b\x7d"
  | map ((key, value) :: rest) =>
    "\x7b" ++ newLine (level + 1) ++ jsonText key ++ ": " ++ jsonAt (level + 1) value
      ++ jsonEntries (level + 1) rest ++ newLine level ++ "\x7d"

def jsonItems (level : Nat) : List Outline → String
  | [] => ""
  | item :: rest => "," ++ newLine level ++ jsonAt level item ++ jsonItems level rest

def jsonEntries (level : Nat) : List (String × Outline) → String
  | [] => ""
  | (key, value) :: rest =>
    "," ++ newLine level ++ jsonText key ++ ": " ++ jsonAt level value ++ jsonEntries level rest

end

def toJson (o : Outline) : String := jsonAt 0 o ++ "\n"

end Outline
end SchemaModels

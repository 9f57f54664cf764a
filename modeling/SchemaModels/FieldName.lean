/-
Names of generated fields.

A field is named after its attribute, with a common beginning unless the strategy says otherwise.
`safeName` turns any text into an identifier that is not reserved; a text which is one already
stays as it is.
-/
import SchemaModels.Text.Class

namespace SchemaModels

open Text

inductive NamingStrategy where
  /-- The attribute name as it is. -/
  | plain
  /-- The common beginning and the attribute name, made a safe identifier. -/
  | leadSafe
  /-- The common beginning and the attribute name as it is. -/
  | leadRaw
deriving Repr, DecidableEq, Inhabited

structure FieldNaming where
  strategy : NamingStrategy
  lead : String
deriving Repr, DecidableEq

def reservedWords : List String :=
  ["False", "None", "True", "and", "as", "assert", "async", "await", "break", "class",
   "continue", "def", "del", "elif", "else", "except", "finally", "for", "from", "global",
   "if", "import", "in", "is", "lambda", "nonlocal", "not", "or", "pass", "raise", "return",
   "try", "while", "with", "yield"]

def safeChar (c : Char) : Char := if isAlphanumeric c || c == '_' then c else '_'

/-- A text made an identifier: what may not stand in one becomes an underscore, a digit in front
and a reserved word are set apart, and the empty text is called a value. -/
def safeName (name : String) : String :=
  match name.toList.map safeChar with
  | [] => "value"
  | c :: rest =>
    let base := String.ofList (c :: rest)
    let lifted := if isAsciiDigit c then "value_" ++ base else base
    if reservedWords.contains lifted then lifted ++ "_value" else lifted

namespace FieldNaming

def fieldName (naming : FieldNaming) (name : String) : String :=
  match naming.strategy with
  | .plain => name
  | .leadSafe => safeName (naming.lead ++ name)
  | .leadRaw => naming.lead ++ name

/-- The name of the key through which the items of the list `name` of the class `owner` lead back
to their owner. -/
def inverseFieldName (naming : FieldNaming) (name owner : String) : String :=
  naming.fieldName (name ++ "_" ++ owner ++ "_id")

end FieldNaming

end SchemaModels

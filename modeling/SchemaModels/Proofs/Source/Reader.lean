/-
How a line that defines a field is read.

The line is split into tokens: names, whole numbers, texts between double quotes, and signs.  The
tokens are read as the assignment of a constructor call, with literals as its arguments; brackets
around several literals, or around one with a comma behind it, make a tuple.  The reader knows the
part of the language that such lines need and refuses everything else: a line break, a number with a
leading zero, a text between three quotes, an escape for anything but a quote, a backslash or blank
space.  It looks at the tokens of one line only; that a source may hold no null character is a rule
about the whole source and not about its tokens.
-/
import SchemaModels.Source.Field

namespace SchemaModels
namespace LineReader

/-! ## Tokens -/

inductive Token where
  | name (value : String)
  | number (value : Nat)
  | text (value : String)
  | sign (value : Char)
deriving Repr, DecidableEq

/-- A letter, which may start a name.  Beyond ASCII every character counts as one: which of them may
really stand in a name makes no difference, since none of them ends one here. -/
def isLetter (c : Char) : Bool := c.isAlpha || c == '_' || 128 ≤ c.toNat

def isNamePart (c : Char) : Bool := isLetter c || c.isDigit

def isIdentifier (name : String) : Bool :=
  match name.toList with
  | [] => false
  | c :: rest => isLetter c && rest.all isNamePart

def isSign (c : Char) : Bool := ['(', ')', '=', ',', '.', '-'].contains c

def unescape? (c : Char) : Option Char :=
  if c = '\\' ∨ c = '"' then some c
  else if c = 'n' then some '\n'
  else if c = 'r' then some '\r'
  else if c = 't' then some '\t'
  else none

/-- A number, unless it has a leading zero. -/
def number? (digits : List Char) : Option Token :=
  if digits.head? = some '0' ∧ digits ≠ ['0'] then none
  else some (.number (Nat.ofDigitChars 10 digits 0))

/-- What the characters before the next one are part of. -/
inductive Scan where
  | between
  | name (read : List Char)
  | number (read : List Char)
  | text (read : List Char)
  /-- Two quotes with nothing between them. -/
  | empty
  /-- A text, up to a backslash in it. -/
  | escape (read : List Char)
deriving Repr, DecidableEq

namespace Scan

def finish : Scan → Option (List Token)
  | between => some []
  | name read => some [.name (String.ofList read)]
  | number read => (number? read).map fun token => [token]
  | empty => some [.text ""]
  | text _ | escape _ => none

def start (c : Char) : Option (List Token × Scan) :=
  if c = ' ' then some ([], between)
  else if c = '"' then some ([], text [])
  else if isLetter c then some ([], name [c])
  else if c.isDigit then some ([], number [c])
  else if isSign c then some ([.sign c], between)
  else none

def startAfter (token : Token) (c : Char) : Option (List Token × Scan) :=
  (start c).map fun (tokens, next) => (token :: tokens, next)

def step : Scan → Char → Option (List Token × Scan)
  | between, c => start c
  | name read, c =>
    if isNamePart c then some ([], name (read ++ [c]))
    else startAfter (.name (String.ofList read)) c
  | number read, c =>
    if c.isDigit then some ([], number (read ++ [c]))
    else if isLetter c then none
    else (number? read).bind fun token => startAfter token c
  | empty, c => if c = '"' then none else startAfter (.text "") c
  | text read, c =>
    if c = '"' then
      some (if read.isEmpty then ([], empty) else ([.text (String.ofList read)], between))
    else if c = '\\' then some ([], escape read)
    else if c = '\n' ∨ c = '\r' then none
    else some ([], text (read ++ [c]))
  | escape read, c => (unescape? c).map fun d => ([], text (read ++ [d]))

def tokens : Scan → List Char → Option (List Token)
  | scan, [] => scan.finish
  | scan, c :: rest =>
    (scan.step c).bind fun (done, next) => (tokens next rest).map fun others => done ++ others

end Scan

/-! ## Literals -/

/-- Items with commas between them up to the closing bracket, and whether a comma, or nothing,
stands before it. -/
def readSeparated {α : Type} (readOne : List Token → Option (α × List Token)) :
    Nat → List Token → Option ((List α × Bool) × List Token)
  | 0, _ => none
  | fuel + 1, tokens =>
    match readOne tokens, tokens with
    | some (one, .sign ',' :: rest), _ =>
      (readSeparated readOne fuel rest).map fun ((others, isOpen), rest) =>
        ((one :: others, isOpen), rest)
    | some (one, .sign ')' :: rest), _ => some (([one], false), rest)
    | none, .sign ')' :: rest => some (([], true), rest)
    | _, _ => none

def bracketed (items : List Literal) (isOpen : Bool) : Literal :=
  match items, isOpen with
  | [item], false => item
  | _, _ => .tuple items

def nameLiteral (value : String) : Literal :=
  if value = "True" then .bool true
  else if value = "False" then .bool false
  else .name value

def readLiteral : Nat → List Token → Option (Literal × List Token)
  | 0, _ => none
  | depth + 1, tokens =>
    match tokens with
    | .text value :: rest => some (.text value, rest)
    | .number value :: rest => some (.int value, rest)
    | .sign '-' :: .number value :: rest => some (.int (-value), rest)
    | .name value :: rest => some (nameLiteral value, rest)
    | .sign '(' :: rest =>
      (readSeparated (readLiteral depth) rest.length rest).map fun ((items, isOpen), rest) =>
        (bracketed items isOpen, rest)
    | _ => none

/-! ## Fields -/

def readArgument (depth : Nat) (tokens : List Token) :
    Option ((Option String × Literal) × List Token) :=
  match tokens with
  | .name key :: .sign '=' :: rest =>
    (readLiteral depth rest).map fun (value, rest) => ((some key, value), rest)
  | _ => (readLiteral depth tokens).map fun (value, rest) => ((none, value), rest)

def sortArguments : List (Option String × Literal) → Option (List Literal × Keywords)
  | [] => some ([], [])
  | (none, value) :: rest =>
    (sortArguments rest).map fun (positional, kwargs) => (value :: positional, kwargs)
  | (some key, value) :: rest =>
    match sortArguments rest with
    | some ([], kwargs) => some ([], (key, value) :: kwargs)
    | _ => none

def kind? (name : String) : Option FieldKind :=
  [.char, .integer, .float, .monetary, .date, .datetime, .boolean, .selection, .one2many,
    .many2one].find? fun kind => kind.sourceName == name

def readDefinition : List Token → Option FieldDefinition
  | .name name :: .sign '=' :: .name "fields" :: .sign '.' :: .name kind :: .sign '(' :: rest => do
    let kind ← kind? kind
    let ((arguments, _), []) ← readSeparated (readArgument rest.length) rest.length rest | none
    let (positional, kwargs) ← sortArguments arguments
    return { name, kind, positional, kwargs }
  | _ => none

def readLine (line : String) : Option FieldDefinition :=
  (Scan.between.tokens line.toList).bind readDefinition

end LineReader
end SchemaModels

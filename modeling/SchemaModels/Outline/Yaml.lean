/-
Outlines in YAML, in block style.

A text stands as it is where it reads back as that text.  It is put in single quotes where it would
read as something else or end too early, in double quotes where it holds what cannot be shown, and
in a literal block if it has several lines.  The items of a list stand under the key of the list,
not further in.  A key that is long or has several lines is marked as a key.
-/
import SchemaModels.Document.Yaml.PlainValue
import SchemaModels.Outline

namespace SchemaModels
namespace Outline

/-! ## Characters -/

def isLineEnd (c : Char) : Bool :=
  c = '\n' || c = '\r' || c.toNat = 0x85 || c.toNat = 0x2028 || c.toNat = 0x2029

def isGap (c : Char) : Bool := c = ' ' || c = '\t' || isLineEnd c

def isShown (c : Char) : Bool :=
  let n := c.toNat
  n = 10 || (32 ≤ n && n ≤ 126) || (160 ≤ n && n ≤ 0xfffd && n ≠ 0xfeff) || 0x10000 ≤ n

def isFirstIndicator (c : Char) : Bool :=
  [',', '#', '[', ']', '\x7b', '\x7d', '&', '*', '!', '|', '>', '\'', '"', '%', '@',
    '\x60'].contains c

def gapFollows : List Char → Bool
  | [] => true
  | c :: _ => isGap c

/-! ## Where a text may stand -/

def opensDocument (s : List Char) : Bool :=
  Text.beginsWith ['-', '-', '-'] s || Text.beginsWith ['.', '.', '.'] s

def opensSyntax : List Char → Bool
  | [] => false
  | c :: rest => isFirstIndicator c || (['?', ':', '-'].contains c && gapFollows rest)

/-- A mark of the syntax stands further in, given whether a gap comes before. -/
def holdsSyntax (afterGap : Bool) : List Char → Bool
  | [] => false
  | c :: rest =>
    (c = ':' && gapFollows rest) || (c = '#' && afterGap) || holdsSyntax (isGap c) rest

def holdsPair (p q : Char → Bool) : List Char → Bool
  | a :: b :: rest => (p a && q b) || holdsPair p q (b :: rest)
  | _ => false

/-- The text reads as something else than a text, or not everywhere as itself. -/
def isAmbiguous (s : List Char) : Bool :=
  Yaml.hasLeadingZero s ||
    match Yaml.plainValue (String.ofList s) with
    | .text _ => false
    | _ => true

/-- The text holds a character that cannot be shown, or a space at the end of a line. -/
def isHidden (s : List Char) : Bool :=
  s.any (fun c => !isShown c) || holdsPair (· = ' ') isLineEnd s

def isPlain (s : List Char) : Bool :=
  !isAmbiguous s && !s.any isLineEnd && s.head? != some ' ' && s.getLast? != some ' '
    && !isHidden s && !opensDocument s && !opensSyntax s && !holdsSyntax false (s.drop 1)

def isQuotable (s : List Char) : Bool := !isHidden s && !holdsPair isLineEnd (· = ' ') s

def isLiteral (s : List Char) : Bool := !isHidden s && s.getLast? != some ' '

/-! ## Texts -/

def spaces (n : Nat) : List Char := List.replicate n ' '

def indentLines (n : Nat) (afterEnd : Bool) : List Char → List Char
  | [] => []
  | c :: rest =>
    if isLineEnd c then c :: indentLines n true rest
    else (if afterEnd then spaces n else []) ++ c :: indentLines n false rest

def singleQuoted (n : Nat) (s : List Char) : List Char :=
  let doubled := s.flatMap fun c => if c = '\'' then ['\'', '\''] else [c]
  ['\''] ++ indentLines n false doubled
    ++ (if s.getLast?.any isLineEnd then spaces n else []) ++ ['\'']

def paddedDigits (width n : Nat) : List Char :=
  let digits := (Nat.toDigits 16 n).map Char.toUpper
  List.replicate (width - digits.length) '0' ++ digits

def letterEscapes : List (Nat × Char) :=
  [(0, '0'), (7, 'a'), (8, 'b'), (9, 't'), (10, 'n'), (11, 'v'), (12, 'f'), (13, 'r'), (27, 'e'),
   (34, '"'), (92, '\\'), (0x85, 'N'), (0x2028, 'L'), (0x2029, 'P')]

def doubleQuotedChar (c : Char) : List Char :=
  match letterEscapes.lookup c.toNat with
  | some letter => ['\\', letter]
  | none =>
    if isShown c then [c]
    else if c.toNat < 256 then ['\\', 'x'] ++ paddedDigits 2 c.toNat
    else if c.toNat < 65536 then ['\\', 'u'] ++ paddedDigits 4 c.toNat
    else ['\\', 'U'] ++ paddedDigits 8 c.toNat

def doubleQuoted (s : List Char) : List Char := ['"'] ++ s.flatMap doubleQuotedChar ++ ['"']

/-- What stands behind the bar of a literal block: the indentation, if the text begins with a gap,
and what becomes of the line ends behind it. -/
def literalHints (s : List Char) : List Char :=
  (if s.head?.any fun c => c = ' ' || isLineEnd c then ['2'] else [])
    ++ (match s.reverse with
      | [] => ['-']
      | [last] => if isLineEnd last then ['+'] else ['-']
      | last :: previous :: _ =>
        if !isLineEnd last then ['-'] else if isLineEnd previous then ['+'] else [])

def literal (n : Nat) (s : List Char) : List Char :=
  let closed := if s.getLast?.any (· = '\n') then s.dropLast else s
  ['|'] ++ literalHints s ++ ['\n'] ++ indentLines n true closed

/-- A text as a value, whose further lines are indented by `n`. -/
def yamlText (n : Nat) (value : String) : String :=
  let s := value.toList
  String.ofList <|
    if s.contains '\n' then (if isLiteral s then literal n s else doubleQuoted s)
    else if isPlain s then s
    else if isQuotable s then singleQuoted n s
    else doubleQuoted s

def yamlKey (key : String) : String :=
  let s := key.toList
  if isPlain s then key
  else String.ofList (if isQuotable s then singleQuoted 0 s else doubleQuoted s)

/-- The longest key, in bytes, that needs no mark. -/
def maxPlainKey : Nat := 128

def isMarked (key : String) : Bool := maxPlainKey < key.utf8ByteSize || key.toList.any isLineEnd

/-! ## Lists and maps -/

def pad (n : Nat) : String := String.ofList (spaces n)

def keyHead (n : Nat) (key : String) : String :=
  if isMarked key then "? " ++ yamlText (n + 2) key ++ "\n" ++ pad n ++ ":" else yamlKey key ++ ":"

/-- What leads to the place `n`: a blank if the line goes on, else a new line. -/
def lead (goesOn : Bool) (n : Nat) : String := if goesOn then " " else "\n" ++ pad n

def listPlace (goesOn : Bool) (n : Nat) : Nat := if goesOn then n + 2 else n

mutual

/-- The outline behind a mark or a key that stands at `n`.  Behind a mark its first line goes on. -/
def yamlNode (goesOn : Bool) (n : Nat) : Outline → String
  | text value => " " ++ yamlText (n + 2) value ++ "\n"
  | list [] => " []\n"
  | list (item :: rest) =>
    lead goesOn (listPlace goesOn n) ++ "-" ++ yamlNode true (listPlace goesOn n) item
      ++ yamlItems (listPlace goesOn n) rest
  | map [] => " \x7b\x7d\n"
  | map ((key, value) :: rest) =>
    lead goesOn (n + 2) ++ keyHead (n + 2) key ++ yamlNode (isMarked key) (n + 2) value
      ++ yamlEntries (n + 2) rest

def yamlItems (n : Nat) : List Outline → String
  | [] => ""
  | item :: rest => pad n ++ "-" ++ yamlNode true n item ++ yamlItems n rest

def yamlEntries (n : Nat) : List (String × Outline) → String
  | [] => ""
  | (key, value) :: rest =>
    pad n ++ keyHead n key ++ yamlNode (isMarked key) n value ++ yamlEntries n rest

end

def toYaml : Outline → String
  | text value => yamlText 0 value ++ "\n"
  | list [] => "[]\n"
  | list (item :: rest) => yamlItems 0 (item :: rest)
  | map [] => "\x7b\x7d\n"
  | map (entry :: rest) => yamlEntries 0 (entry :: rest)

end Outline
end SchemaModels

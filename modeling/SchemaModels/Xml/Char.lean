/-
Characters and small pieces of XML: white space, names and references.

A piece is read off the beginning of a text and returned with what follows it.
-/
import SchemaModels.Text.Numeral
import SchemaModels.Text.Split

namespace SchemaModels
namespace Xml

open Text

/-! ## Characters -/

def isChar (c : Char) : Bool :=
  if c.toNat < 32 then c = '\t' || c = '\n' || c = '\r'
  else c.toNat ≠ 0xFFFE && c.toNat ≠ 0xFFFF

def isSpace (c : Char) : Bool := c = ' ' || c = '\t' || c = '\n' || c = '\r'

def nameStartSpans : List (Nat × Nat) :=
  [(0xC0, 0xD6), (0xD8, 0xF6), (0xF8, 0x2FF), (0x370, 0x37D), (0x37F, 0x1FFF), (0x200C, 0x200D),
   (0x2070, 0x218F), (0x2C00, 0x2FEF), (0x3001, 0xD7FF), (0xF900, 0xFDCF), (0xFDF0, 0xFFFD),
   (0x10000, 0xEFFFF)]

def nameSpans : List (Nat × Nat) := [(0xB7, 0xB7), (0x300, 0x36F), (0x203F, 0x2040)]

def inSpans (spans : List (Nat × Nat)) (c : Char) : Bool :=
  spans.any fun (first, last) => first ≤ c.toNat && c.toNat ≤ last

def isNameStart (c : Char) : Bool :=
  if c.toNat ≤ 128 then isAsciiLetter c || c = ':' || c = '_' else inSpans nameStartSpans c

def isNameChar (c : Char) : Bool :=
  isNameStart c || isAsciiDigit c || c = '-' || c = '.' || inSpans nameSpans c

/-! ## Pieces -/

def skipSpace (s : List Char) : List Char := s.dropWhile isSpace

def space? (s : List Char) : Option (List Char) :=
  if s.head?.any isSpace then some (skipSpace s) else none

def until? (stop : List Char) : List Char → Option (List Char × List Char)
  | [] => none
  | c :: s =>
    match after? stop (c :: s) with
    | some rest => some ([], rest)
    | none => if isChar c then (until? stop s).map fun (taken, rest) => (c :: taken, rest) else none

/-- The characters that pass a test, if all of them may stand in a document, and what follows. -/
def chars? (test : Char → Bool) (s : List Char) : Option (List Char × List Char) :=
  let taken := s.takeWhile test
  if taken.all isChar then some (taken, s.drop taken.length) else none

def name? (s : List Char) : Option (List Char × List Char) :=
  let name := s.takeWhile isNameChar
  if name.head?.any isNameStart then some (name, s.drop name.length) else none

def qualifiedName? (s : List Char) : Option (List Char × List Char × List Char) :=
  let name := s.takeWhile isNameChar
  let rest := s.drop name.length
  let startsWell := fun (part : List Char) => part.head?.all isNameStart
  match splitFirst? [':'] name with
  | none => if name.isEmpty || !startsWell name then none else some ([], name, rest)
  | some (start, local?) =>
    if local?.isEmpty || local?.contains ':' || !startsWell start || !startsWell local? then none
    else some (start, local?, rest)

/-! ## References -/

inductive Reference where
  | char (c : Char)
  | entity (name : List Char)

/-- The value of digits in a base, at most a word. -/
def codeOf? (base : Nat) (digits : List Char) : Option Nat :=
  let value := fun (c : Char) =>
    if isAsciiDigit c then c.toNat - 48 else c.toLower.toNat - 87
  let n := digits.foldl (fun n c => n * base + value c) 0
  if digits.isEmpty || wordLimit ≤ n then none else some n

/-- The character with a code; a code that is none gives the replacement character. -/
def charOf? (code : Nat) : Option Char :=
  let c := if code.isValidChar then Char.ofNat code else '\ufffd'
  if isChar c then some c else none

def isHexDigit (c : Char) : Bool :=
  isAsciiDigit c || ('a' ≤ c && c ≤ 'f') || ('A' ≤ c && c ≤ 'F')

def semicolon? : List Char → Option (List Char)
  | ';' :: rest => some rest
  | _ => none

def reference? : List Char → Option (Reference × List Char)
  | '#' :: 'x' :: s => do
    let digits := s.takeWhile isHexDigit
    let rest ← semicolon? (s.drop digits.length)
    return (.char (← charOf? (← codeOf? 16 digits)), rest)
  | '#' :: s => do
    let digits := s.takeWhile isAsciiDigit
    let rest ← semicolon? (s.drop digits.length)
    return (.char (← charOf? (← codeOf? 10 digits)), rest)
  | s => do
    let (name, rest) ← name? s
    let rest ← semicolon? rest
    return (match String.ofList name with
      | "quot" => .char '"'
      | "amp" => .char '&'
      | "apos" => .char '\''
      | "lt" => .char '<'
      | "gt" => .char '>'
      | _ => .entity name, rest)

end Xml
end SchemaModels

/-
Moving through a YAML text: the characters that matter to the format, and a cursor that knows its
line and column.
-/

namespace SchemaModels
namespace Yaml

/-! ## Characters -/

def isAllowed (c : Char) : Bool :=
  c = '\t' || c = '\n' || c = '\r' || (' ' ≤ c && c ≤ '~') || c = '\x85'
    || ('\xa0' ≤ c && c.toNat ≤ 0xFFFD) || 0x10000 ≤ c.toNat

def isBlank (c : Char) : Bool := c = ' ' || c = '\t'

def isBreak (c : Char) : Bool :=
  c = '\n' || c = '\r' || c = '\x85' || c = '\u2028' || c = '\u2029'

/-- A character of names: an ASCII letter or digit, an underscore or a hyphen. -/
def isNameChar (c : Char) : Bool :=
  ('0' ≤ c && c ≤ '9') || ('a' ≤ c && c ≤ 'z') || ('A' ≤ c && c ≤ 'Z') || c = '_' || c = '-'

def atLineEnd (s : List Char) : Bool := s.head?.all isBreak

def atGap (s : List Char) : Bool := s.head?.all fun c => isBlank c || isBreak c

/-! ## Cursors -/

structure Cursor where
  rest : List Char
  /-- How many characters the whole text has. -/
  size : Nat
  /-- How many characters stand before this place. -/
  index : Nat
  line : Nat
  column : Nat
deriving Repr

namespace Cursor

def ofText (s : List Char) : Cursor := ⟨s, s.length, 0, 0, 0⟩

def left (c : Cursor) : Nat := c.size - c.index

def peek? (c : Cursor) : Option Char := c.rest.head?

def isAt (c : Cursor) (d : Char) : Bool := c.rest.head? == some d

def skip (c : Cursor) (n : Nat) : Cursor :=
  { c with rest := c.rest.drop n, index := c.index + n, column := c.column + n }

def takeWhile (c : Cursor) (test : Char → Bool) : List Char × Cursor :=
  let taken := c.rest.takeWhile test
  (taken, c.skip taken.length)

def skipWhile (c : Cursor) (test : Char → Bool) : Cursor := (c.takeWhile test).2

/-- Move over the end of a line: what it is read as, and the place behind it.  A carriage return
with a newline is one end, and all ends but two are read as newlines. -/
def lineBreak (c : Cursor) : List Char × Cursor :=
  let next := fun (n : Nat) =>
    { c with rest := c.rest.drop n, index := c.index + n, line := c.line + 1, column := 0 }
  match c.rest with
  | '\r' :: '\n' :: _ => (['\n'], next 2)
  | '\r' :: _ | '\n' :: _ | '\x85' :: _ => (['\n'], next 1)
  | '\u2028' :: _ => (['\u2028'], next 1)
  | '\u2029' :: _ => (['\u2029'], next 1)
  | _ => ([], c)

/-- A line begins here with three times the given character and nothing else right after it. -/
def isMarker (c : Cursor) (d : Char) : Bool :=
  c.column == 0 &&
    match c.rest with
    | x :: y :: z :: rest => x == d && y == d && z == d && atGap rest
    | _ => false

def isDocumentMarker (c : Cursor) : Bool := c.isMarker '-' || c.isMarker '.'

end Cursor

end Yaml
end SchemaModels

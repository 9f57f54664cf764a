/-
Reading documents in JSON.

The grammar is the strict one: no comments, no trailing commas, no byte order mark.  Only digits
without sign, fraction and exponent make a natural number.  A string that names half of a surrogate
pair is passed over like any other and cannot be read as a text.
-/
import SchemaModels.Document.Node
import SchemaModels.Text.Numeral

namespace SchemaModels
namespace JsonText

open Text

def isSpace (c : Char) : Bool := c = ' ' || c = '\n' || c = '\t' || c = '\r'

def skipSpace (s : List Char) : List Char := s.dropWhile isSpace

/-! ## Strings -/

def hexDigit? (c : Char) : Option Nat :=
  if '0' ≤ c ∧ c ≤ '9' then some (c.toNat - 48)
  else if 'a' ≤ c ∧ c ≤ 'f' then some (c.toNat - 87)
  else if 'A' ≤ c ∧ c ≤ 'F' then some (c.toNat - 55)
  else none

def hexWord? : List Char → Option (Nat × List Char)
  | a :: b :: c :: d :: rest => do
    return ((((← hexDigit? a) * 16 + (← hexDigit? b)) * 16 + (← hexDigit? c)) * 16
      + (← hexDigit? d), rest)
  | _ => none

def isHighHalf (n : Nat) : Bool := 0xD800 ≤ n && n < 0xDC00

def isLowHalf (n : Nat) : Bool := 0xDC00 ≤ n && n < 0xE000

def ofHalves (high low : Nat) : Char :=
  Char.ofNat (0x10000 + (high - 0xD800) * 0x400 + (low - 0xDC00))

/-- A code unit with the rest of the text; a pair is put together, and half a pair gives no
character. -/
def codeUnit? (s : List Char) : Option (Option Char × List Char) := do
  let (n, rest) ← hexWord? s
  if isLowHalf n then return (none, rest)
  else if isHighHalf n then
    match rest with
    | '\\' :: 'u' :: more =>
      let (m, after) ← hexWord? more
      if isLowHalf m then return (some (ofHalves n m), after) else return (none, rest)
    | _ => return (none, rest)
  else return (some (Char.ofNat n), rest)

def escaped? : List Char → Option (Option Char × List Char)
  | '"' :: rest => some (some '"', rest)
  | '\\' :: rest => some (some '\\', rest)
  | '/' :: rest => some (some '/', rest)
  | 'b' :: rest => some (some '\x08', rest)
  | 'f' :: rest => some (some '\x0c', rest)
  | 'n' :: rest => some (some '\n', rest)
  | 'r' :: rest => some (some '\r', rest)
  | 't' :: rest => some (some '\t', rest)
  | 'u' :: rest => codeUnit? rest
  | _ => none

/-- The rest of a string after its opening quote: its characters, if all of them are known, and what
follows the closing quote.  The characters so far are given in reverse. -/
def stringFrom : Nat → Option (List Char) → List Char → Option (Option String × List Char)
  | 0, _, _ => none
  | _ + 1, _, [] => none
  | fuel + 1, known, c :: s =>
    if c = '"' then some (known.map fun cs => String.ofList cs.reverse, s)
    else if c = '\\' then do
      let (d, rest) ← escaped? s
      stringFrom fuel (do return (← d) :: (← known)) rest
    else if c.toNat < 32 then none
    else stringFrom fuel (known.map (c :: ·)) s

def ofText : Option String → Scalar
  | none => {}
  | some s => { text := some s, choice := some s, loose := .text s }

/-! ## Other scalars -/

def null : Scalar := { absent := some true, loose := .absent }

def ofBool (b : Bool) : Scalar := { bool := some b }

/-- The scalar of a natural number; one that fits no word is just a number. -/
def ofNatural (n : Nat) : Scalar :=
  if n < longLimit then { natural := some n, loose := .natural n } else {}

def digits? (s : List Char) : Option (List Char) :=
  match s with
  | c :: rest => if isAsciiDigit c then some (rest.dropWhile isAsciiDigit) else none
  | [] => none

def fraction? : List Char → Option (List Char)
  | '.' :: rest => digits? rest
  | s => some s

def exponent? : List Char → Option (List Char)
  | c :: rest =>
    if c = 'e' ∨ c = 'E' then
      match rest with
      | '+' :: rest | '-' :: rest => digits? rest
      | _ => digits? rest
    else some (c :: rest)
  | [] => some []

/-- The digits of a whole number and what follows: a leading zero stands alone. -/
def whole? : List Char → Option (List Char × List Char)
  | '0' :: rest => if rest.head?.any isAsciiDigit then none else some (['0'], rest)
  | s =>
    let digits := s.takeWhile isAsciiDigit
    if digits.isEmpty then none else some (digits, s.drop digits.length)

def number? (s : List Char) : Option (Scalar × List Char) := do
  let (negative, s) := match s with
    | '-' :: rest => (true, rest)
    | _ => (false, s)
  let (digits, rest) ← whole? s
  let after ← exponent? (← fraction? rest)
  if negative || after.length ≠ rest.length then return ({}, after)
  else return (ofNatural (digitsValue digits), after)

/-! ## Values -/

mutual

/-- The value at the beginning of a text, and what follows unless the text breaks. -/
def value : Nat → List Char → Node × Option (List Char)
  | 0, _ => (.broken, none)
  | fuel + 1, s =>
    match skipSpace s with
    | '"' :: rest =>
      match stringFrom (rest.length + 1) (some []) rest with
      | some (t, rest) => (.scalar (ofText t), some rest)
      | none => (.broken, none)
    | '[' :: rest =>
      match skipSpace rest with
      | ']' :: rest => (.list [], some rest)
      | rest =>
        let (nodes, rest) := items fuel rest
        (.list nodes, rest)
    | '\x7b' :: rest =>
      match skipSpace rest with
      | '\x7d' :: rest => (.record [], some rest)
      | rest =>
        let (nodes, rest) := entries fuel rest
        (.record nodes, rest)
    | 'n' :: 'u' :: 'l' :: 'l' :: rest => (.scalar null, some rest)
    | 't' :: 'r' :: 'u' :: 'e' :: rest => (.scalar (ofBool true), some rest)
    | 'f' :: 'a' :: 'l' :: 's' :: 'e' :: rest => (.scalar (ofBool false), some rest)
    | s =>
      match number? s with
      | some (n, rest) => (.scalar n, some rest)
      | none => (.broken, none)

def items : Nat → List Char → List Node × Option (List Char)
  | 0, _ => ([.broken], none)
  | fuel + 1, s =>
    match value fuel s with
    | (node, none) => ([node], none)
    | (node, some rest) =>
      match skipSpace rest with
      | ',' :: rest =>
        let (nodes, rest) := items fuel rest
        (node :: nodes, rest)
      | ']' :: rest => ([node], some rest)
      | _ => ([node, .broken], none)

def entries : Nat → List Char → List (Node × Node) × Option (List Char)
  | 0, _ => ([(.broken, .broken)], none)
  | fuel + 1, s =>
    match skipSpace s with
    | '"' :: rest =>
      match stringFrom (rest.length + 1) (some []) rest with
      | none => ([(.broken, .broken)], none)
      | some (key, rest) =>
        let key := Node.scalar (ofText key)
        match skipSpace rest with
        | ':' :: rest =>
          match value fuel rest with
          | (node, none) => ([(key, node)], none)
          | (node, some rest) =>
            match skipSpace rest with
            | ',' :: rest =>
              let (nodes, rest) := entries fuel rest
              ((key, node) :: nodes, rest)
            | '\x7d' :: rest => ([(key, node)], some rest)
            | _ => ([(key, node), (.broken, .broken)], none)
        | _ => ([(key, .broken)], none)
    | _ => ([(.broken, .broken)], none)

end

end JsonText

/-- The document that a JSON text holds.  Every value starts with a character of its own, so twice
the length of the text is enough to reach all of them. -/
def Document.ofJson (text : String) : Document :=
  let s := text.toList
  let (root, rest) := JsonText.value (2 * s.length + 2) s
  { root := root
    depth := 127
    choiceRecords := true
    sound := rest.any fun rest => (JsonText.skipSpace rest).isEmpty }

end SchemaModels

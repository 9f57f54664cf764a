/-
What YAML scalars read as.

Only plain scalars are more than texts.  A plain scalar is a truth value, a number or nothing by its
spelling, and a tag can say what it has to be.
-/
import SchemaModels.Document.Node
import SchemaModels.Document.Yaml.Token
import SchemaModels.Text.Numeral
import SchemaModels.Text.Split

namespace SchemaModels
namespace Yaml

open Text

/-! ## Spellings -/

def isNullWord (s : String) : Bool := ["null", "Null", "NULL", "~"].contains s

def bool? (s : String) : Option Bool :=
  if ["true", "True", "TRUE"].contains s then some true
  else if ["false", "False", "FALSE"].contains s then some false
  else none

def digit? (c : Char) : Option Nat :=
  if '0' ≤ c ∧ c ≤ '9' then some (c.toNat - 48)
  else if 'a' ≤ c ∧ c ≤ 'f' then some (c.toNat - 87)
  else if 'A' ≤ c ∧ c ≤ 'F' then some (c.toNat - 55)
  else none

def inBase? (base : Nat) (s : List Char) : Option Nat := do
  let digits ← s.mapM fun c => (digit? c).filter (· < base)
  if digits.isEmpty then none else return digits.foldl (fun n d => n * base + d) 0

def unsigned? (s : List Char) : Option Nat :=
  match s with
  | '0' :: 'x' :: rest => inBase? 16 rest
  | '0' :: 'o' :: rest => inBase? 8 rest
  | '0' :: 'b' :: rest => inBase? 2 rest
  | _ => inBase? 10 s

/-- More than one digit, the first of them zero, perhaps with a sign: a text and no number. -/
def hasLeadingZero (s : List Char) : Bool :=
  let digits := match s with
    | '+' :: rest | '-' :: rest => rest
    | _ => s
  1 < digits.length && digits.head? == some '0' && digits.all isAsciiDigit

/-- A natural number that fits a word, perhaps with a plus sign. -/
def natural? (s : List Char) : Option Nat :=
  if hasLeadingZero s then none
  else
    (unsigned? (match s with
      | '+' :: rest => rest
      | _ => s)).filter (· < longLimit)

def isInteger (s : List Char) : Bool :=
  !hasLeadingZero s &&
    (unsigned? (match s with
      | '+' :: rest | '-' :: rest => rest
      | _ => s)).any (· < Nat.pow 2 128)

def decimal? (s : List Char) : Option (List Char × List Char × Int) := do
  let whole := s.takeWhile isAsciiDigit
  let rest := s.drop whole.length
  let (fraction, rest) := match rest with
    | '.' :: rest => (rest.takeWhile isAsciiDigit, rest.dropWhile isAsciiDigit)
    | _ => ([], rest)
  if whole.isEmpty && fraction.isEmpty then none
  else
    match rest with
    | [] => return (whole, fraction, 0)
    | e :: rest =>
      if e = 'e' ∨ e = 'E' then
        let (negative, digits) := match rest with
          | '-' :: digits => (true, digits)
          | '+' :: digits => (false, digits)
          | _ => (false, rest)
        if digits.isEmpty || !digits.all isAsciiDigit then none
        else
          let n : Int := digitsValue digits
          return (whole, fraction, if negative then -n else n)
      else none

/-- The least number that is too large for a floating-point number of 64 bits. -/
def floatLimit : Nat := Nat.pow 2 1024 - Nat.pow 2 970

def isFiniteDecimal (s : List Char) : Bool :=
  match decimal? s with
  | none => false
  | some (whole, fraction, exponent) =>
    let digits := (whole ++ fraction).dropWhile (· = '0')
    let places : Int := exponent - fraction.length
    let magnitude : Int := digits.length + places
    if digits.isEmpty || magnitude ≤ 308 then true
    else if 309 < magnitude then false
    else if 0 ≤ places then digitsValue digits * Nat.pow 10 places.toNat < floatLimit
    else digitsValue digits < floatLimit * Nat.pow 10 (-places).toNat

def isFloat (s : List Char) : Bool :=
  let unsigned := match s with
    | '+' :: rest => rest
    | _ => s
  [".inf", ".Inf", ".INF"].contains (String.ofList unsigned)
    || ["-.inf", "-.Inf", "-.INF", ".nan", ".NaN", ".NAN"].contains (String.ofList s)
    || isFiniteDecimal (match s with
        | '+' :: rest | '-' :: rest => rest
        | _ => s)

def plainValue (s : String) : LooseValue :=
  if s.isEmpty || isNullWord s then .absent
  else if (bool? s).isSome then .other
  else
    match natural? s.toList with
    | some n => .natural n
    | none =>
      if isInteger s.toList then
        if (unsigned? (s.toList.drop 1)) = some 0 then .natural 0 else .other
      else if !hasLeadingZero s.toList && isFloat s.toList then .other
      else .text s

/-! ## Tags -/

def coreTag : String := "tag:yaml.org,2002:"

def localTag? (tag : Option String) : Option String :=
  match tag.map String.toList with
  | some ('!' :: rest) => some (if rest.isEmpty then "!" else String.ofList rest)
  | _ => none

def taggedValue (s tag : String) : LooseValue :=
  if tag = coreTag ++ "int" then
    match plainValue s with
    | .natural n => .natural n
    | _ => .other
  else if tag = coreTag ++ "null" then (if isNullWord s then .absent else .other)
  else if tag = coreTag ++ "bool" || tag = coreTag ++ "float" then .other
  else if (localTag? (some tag)).isSome then .other
  else .text s

def absent? (s : String) (style : Style) (tag : Option String) : Option Bool :=
  if style ≠ .plain then some false
  else
    match tag with
    | some tag =>
      if tag = coreTag ++ "null" then (if isNullWord s then some true else none) else some false
    | none => some (s.isEmpty || isNullWord s)

def isNothing (s : String) (style : Style) : Bool :=
  style = .plain && (s.isEmpty || isNullWord s)

/-- A scalar that can be more than a text: a plain one, or a literal one with the tag. -/
def isTyped (style : Style) (tag : Option String) (type : String) : Bool :=
  style = .plain || (style = .literal && tag == some (coreTag ++ type))

def scalar (s : String) (style : Style) (tag : Option String) : Scalar where
  text := some s
  absent := absent? s style tag
  blank := style = .plain && s.isEmpty
  bool := if isTyped style tag "bool" then bool? s else none
  natural := if isTyped style tag "int" then natural? s.toList else none
  choice :=
    match localTag? tag with
    | some name => if isNothing s style then some name else none
    | none => some s
  loose :=
    match tag with
    | some tag => taggedValue s tag
    | none => if style = .plain then plainValue s else .text s

end Yaml
end SchemaModels

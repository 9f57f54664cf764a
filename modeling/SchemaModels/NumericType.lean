/-
Numeric types that carry their precision in their name.

A type such as `TDec_1302` has thirteen integer and two decimal digits.  A convention says which
types are numeric, by how their names begin, and optionally where in the name the digits stand:
`TDec_[5:7.7:9]` reads the integer digits from bytes 5 to 7 and the decimal digits from 7 to 9.
A number with the decimal places of the currency is an amount of money, unless its attribute is
named like a percentage.
-/
import SchemaModels.Error
import SchemaModels.Text.Numeral
import SchemaModels.Text.Split

namespace SchemaModels

open Text

/-- A non-empty range of byte positions. -/
structure Slice where
  start : Nat
  stop : Nat
  start_lt_stop : start < stop

/-- Digits before and after the decimal point. -/
structure Precision where
  integer : Nat
  decimal : Nat
deriving Repr, DecidableEq

/-- The precision of numeric types whose names carry none. -/
def Precision.standard : Precision := ⟨16, 4⟩

inductive NumericConvention where
  /-- Numeric types begin with `start`. -/
  | byStart (start : String)
  /-- Numeric types begin with `start` and carry their digits at two places. -/
  | bySlices (start : String) (integer decimal : Slice)

/-! ## Places in a name -/

/-- What remains after `n` bytes, if they end between two characters. -/
def dropBytes : Nat → List Char → Option (List Char)
  | 0, s => some s
  | _ + 1, [] => none
  | n + 1, c :: s => if c.utf8Size ≤ n + 1 then dropBytes (n + 1 - c.utf8Size) s else none

def takeBytes : Nat → List Char → Option (List Char)
  | 0, _ => some []
  | _ + 1, [] => none
  | n + 1, c :: s =>
    if c.utf8Size ≤ n + 1 then (takeBytes (n + 1 - c.utf8Size) s).map (c :: ·) else none

def Slice.of (slice : Slice) (s : List Char) : Option (List Char) := do
  takeBytes (slice.stop - slice.start) (← dropBytes slice.start s)

/-- A name without version markers: a `v` that stands right after a digit. -/
def stripMarkersFrom (afterDigit : Bool) : List Char → List Char
  | [] => []
  | c :: rest =>
    if c = 'v' ∧ afterDigit then stripMarkersFrom false rest
    else c :: stripMarkersFrom (isAsciiDigit c) rest

def stripMarkers (name : List Char) : List Char := stripMarkersFrom false name

/-! ## Reading a convention -/

/-- Read `a:b` with `a < b`. -/
def Slice.read? (s : List Char) : Option Slice := do
  let (start, stop) ← splitFirst? [':'] s
  let start ← numeral? longLimit (trim start)
  let stop ← numeral? longLimit (trim stop)
  if h : start < stop then some ⟨start, stop, h⟩ else none

/-- Read `Start[a:b.c:d]`. -/
def readSlices? (s : List Char) : Option NumericConvention := do
  let (start, rest) ← splitFirst? ['['] s
  let inner ← before? [']'] rest
  let (integer, decimal) ← splitFirst? ['.'] inner
  let integer ← Slice.read? integer
  let decimal ← Slice.read? decimal
  return .bySlices (String.ofList start) integer decimal

namespace NumericConvention

def ofSlices (text : String) : Except ConfigError NumericConvention :=
  match readSlices? text.toList with
  | some convention => .ok convention
  | none => .error (.invalidNumericConvention text)

/-- Read a convention; one without a bracket is the beginning alone. -/
def read (text : String) : Except ConfigError NumericConvention :=
  if text.toList.contains '[' then ofSlices text else .ok (.byStart text)

def read? (text : String) : Option NumericConvention := (read text).toOption

def start : NumericConvention → String
  | byStart start => start
  | bySlices start _ _ => start

def isNumber (convention : NumericConvention) (type : String) : Bool :=
  beginsWith convention.start.toList type.toList

def encodesDigits : NumericConvention → Bool
  | byStart _ => false
  | bySlices _ _ _ => true

/-- The digits in a type name. -/
def digits? : NumericConvention → String → Option Precision
  | byStart _, _ => none
  | bySlices _ integer decimal, type => do
    let name := stripMarkers type.toList
    let integer ← numeral? wordLimit (← integer.of name)
    let decimal ← numeral? wordLimit (← decimal.of name)
    return ⟨integer, decimal⟩

end NumericConvention

/-! ## Money and other numbers -/

inductive NumericKind where
  | monetary
  | float (digits : Precision)
deriving Repr, DecidableEq

structure NumericClassifier where
  convention : NumericConvention
  /-- Types that begin with this are always money. -/
  monetaryType : Option String
  /-- The decimal places of an amount of money. -/
  monetaryDigits : Nat

/-- A percentage is named by a `p` before a capital. -/
def isPercentage (name : String) : Bool :=
  match name.toList with
  | 'p' :: c :: _ => isUpper c
  | _ => false

def NumericClassifier.classify (classifier : NumericClassifier) (name type : String) :
    Option NumericKind :=
  if classifier.monetaryType.any fun start => beginsWith start.toList type.toList then
    some .monetary
  else if !classifier.convention.isNumber type then none
  else if !classifier.convention.encodesDigits then some (.float .standard)
  else
    (classifier.convention.digits? type).map fun digits =>
      if digits.decimal ≠ classifier.monetaryDigits ∨ isPercentage name then .float digits
      else .monetary

end SchemaModels

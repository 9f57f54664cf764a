/-
Decimal numerals as they are read from names and settings.

A numeral is one or more ASCII digits, with an optional plus sign in front, whose value fits the
given limit.
-/
import SchemaModels.Text.Class

namespace SchemaModels
namespace Text

def digitsValue (digits : List Char) : Nat :=
  digits.foldl (fun n c => n * 10 + (c.toNat - 48)) 0

/-- The number written by `s`, if it is below `limit`. -/
def numeral? (limit : Nat) (s : List Char) : Option Nat :=
  let digits := match s with
    | '+' :: rest => rest
    | _ => s
  if digits.isEmpty || !digits.all isAsciiDigit then none
  else
    let n := digitsValue digits
    if n < limit then some n else none

/-- Numbers of occurrences and digits are 32-bit words. -/
def wordLimit : Nat := 4294967296

/-- Positions and lengths are 64-bit words. -/
def longLimit : Nat := 18446744073709551616

end Text
end SchemaModels

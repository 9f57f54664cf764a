/-
Upper and lower case.

A character may become several (`ß` is written `SS` in capitals), so the maps return lists.  Only
lower-casing a whole text looks at neighbours: a capital sigma that ends a word becomes `ς`.
-/
import SchemaModels.Text.CaseTable
import SchemaModels.Text.Class

namespace SchemaModels
namespace Text

def shifted (shifts : List CaseShift) (c : Char) : Option Char :=
  (shifts.find? fun s => s.run.contains c.toNat).map fun s =>
    Char.ofNat (Int.toNat (c.toNat + s.distance))

def mapCase (shifts : List CaseShift) (expansions : List (Nat × List Nat)) (c : Char) :
    List Char :=
  match shifted shifts c with
  | some d => [d]
  | none =>
    match expansions.lookup c.toNat with
    | some codes => codes.map Char.ofNat
    | none => [c]

def upper (c : Char) : List Char :=
  if c.toNat < 128 then [c.toUpper] else mapCase upperShifts upperExpansions c

def lower (c : Char) : List Char :=
  if c.toNat < 128 then [c.toLower] else mapCase lowerShifts lowerExpansions c

/-- One character for all that differ from it in case only. -/
def foldCase (c : Char) : Char :=
  if c.toNat < 128 then c.toUpper else (shifted foldShifts c).getD c

def casedNext (s : List Char) : Bool :=
  match s.dropWhile isCaseIgnorable with
  | [] => false
  | c :: _ => isCased c

/-- Lower-case a text, given the characters before it in reverse. -/
def lowerAfter : List Char → List Char → List Char
  | _, [] => []
  | before, c :: rest =>
    let image :=
      if c = 'Σ' then [if casedNext before && !casedNext rest then 'ς' else 'σ'] else lower c
    image ++ lowerAfter (c :: before) rest

def lowerAll (s : List Char) : List Char := lowerAfter [] s

def upperAll (s : List Char) : List Char := s.flatMap upper

end Text
end SchemaModels

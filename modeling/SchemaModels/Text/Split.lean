/-
Taking texts apart and putting them together: trimming, words, lines, and the parts around a token.

Texts are lists of characters here.  `words` and `lines` are the two ways in which documentation is
read: words are maximal runs without white space, and a line ends at a newline, which is dropped
together with a carriage return before it.
-/
import SchemaModels.Text.Class

namespace SchemaModels
namespace Text

/-! ## Ends -/

def trimStart (s : List Char) : List Char := s.dropWhile isBlank

def trimEnd (s : List Char) : List Char := (s.reverse.dropWhile isBlank).reverse

def trim (s : List Char) : List Char := trimEnd (trimStart s)

def after? : List Char → List Char → Option (List Char)
  | [], s => some s
  | _ :: _, [] => none
  | a :: start, c :: s => if a = c then after? start s else none

def beginsWith (start s : List Char) : Bool := (after? start s).isSome

def before? (ending s : List Char) : Option (List Char) :=
  (after? ending.reverse s.reverse).map List.reverse

def endsWith (ending s : List Char) : Bool := (before? ending s).isSome

/-! ## Tokens -/

def splitFirst? (token : List Char) : List Char → Option (List Char × List Char)
  | [] => if token.isEmpty then some ([], []) else none
  | c :: s =>
    match after? token (c :: s) with
    | some rest => some ([], rest)
    | none => (splitFirst? token s).map fun (head, tail) => (c :: head, tail)

def splitLast? (token s : List Char) : Option (List Char × List Char) :=
  (splitFirst? token.reverse s.reverse).map fun (tail, head) => (head.reverse, tail.reverse)

/-- The pieces between the characters that satisfy `isSeparator`, empty ones included. -/
def pieces (isSeparator : Char → Bool) : List Char → List (List Char)
  | [] => [[]]
  | c :: s =>
    if isSeparator c then [] :: pieces isSeparator s
    else
      match pieces isSeparator s with
      | [] => [[c]]
      | piece :: rest => (c :: piece) :: rest

def joinWith (separator : List Char) : List (List Char) → List Char
  | [] => []
  | [piece] => piece
  | piece :: rest => piece ++ separator ++ joinWith separator rest

/-! ## Words and lines -/

/-- The maximal runs without white space. -/
def words (s : List Char) : List (List Char) := (pieces isBlank s).filter fun w => !w.isEmpty

def chomp (line : List Char) : List Char := (before? ['\r'] line).getD line

/-- Lines from pieces between newlines: every piece but the last was closed by a newline, and the
last counts only if something stands there. -/
def closeLines : List (List Char) → List (List Char)
  | [] => []
  | [last] => if last.isEmpty then [] else [last]
  | line :: rest => chomp line :: closeLines rest

def lines (s : List Char) : List (List Char) := closeLines (pieces (· == '\n') s)

def firstLine (s : List Char) : List Char := (lines s).headD []

end Text
end SchemaModels

/-
Names of classes as they appear in paths, and the slugs made from paths.

A schema name is cut into words at every capital that follows something else and at every
separator; the words are title-cased and put together.  Separators are the characters that are
neither cased nor numeric: none of them survives, in particular no dot, so a dotted path can be
taken apart again.
-/
import SchemaModels.Text.Case

namespace SchemaModels

open Text

inductive LetterCase where
  | upper
  | lower
  | numeric
  | other
deriving Repr, DecidableEq

/-- The case of a character; everything uncased that is no number separates words. -/
def LetterCase.of (c : Char) : LetterCase :=
  if isUpper c then .upper
  else if isLower c then .lower
  else if isNumeric c then .numeric
  else .other

def closeWord (word : List Char) : List (List Char) := if word.isEmpty then [] else [word]

/-- Split into words, given the case of the character before and the word begun so far. -/
def splitWordsFrom (previous : Option LetterCase) (word : List Char) :
    List Char → List (List Char)
  | [] => closeWord word
  | c :: rest =>
    match LetterCase.of c with
    | .other => closeWord word ++ splitWordsFrom (some .other) [] rest
    | .upper =>
      if previous.any (· ≠ .upper) then
        closeWord word ++ splitWordsFrom (some .upper) [c] rest
      else splitWordsFrom (some .upper) (word ++ [c]) rest
    | kept => splitWordsFrom (some kept) (word ++ [c]) rest

def splitWords (name : List Char) : List (List Char) := splitWordsFrom none [] name

/-- Lower-case what follows a letter and upper-case the rest. -/
def titleCaseFrom (afterLetter : Bool) : List Char → List Char
  | [] => []
  | c :: rest =>
    (if afterLetter then lower c else upper c) ++ titleCaseFrom (isAlphabetic c) rest

def titleCase (word : List Char) : List Char := titleCaseFrom false word

def className (name : String) : String :=
  String.ofList ((splitWords name.toList).flatMap titleCase)

def slugChar (c : Char) : Char :=
  if c = '.' ∨ c = '-' ∨ c = ' ' then '_' else c.toLower

def slugify (path : String) : String := String.ofList (path.toList.map slugChar)

end SchemaModels

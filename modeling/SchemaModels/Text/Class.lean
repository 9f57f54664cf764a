/-
Classes of characters, over all of Unicode.

Every class answers for ASCII by comparison and looks further characters up in the tables, so the
common case needs no table and evaluates by itself.
-/
import SchemaModels.Text.CategoryTable
import SchemaModels.Text.PropertyTable

namespace SchemaModels
namespace Text

def isAsciiDigit (c : Char) : Bool := '0' ≤ c && c ≤ '9'

def isAsciiLetter (c : Char) : Bool := ('a' ≤ c && c ≤ 'z') || ('A' ≤ c && c ≤ 'Z')

def isUpper (c : Char) : Bool :=
  if c.toNat < 128 then 'A' ≤ c && c ≤ 'Z'
  else inRuns uppercaseLetters c || inRuns furtherUppercase c

def isLower (c : Char) : Bool :=
  if c.toNat < 128 then 'a' ≤ c && c ≤ 'z'
  else inRuns lowercaseLetters c || inRuns furtherLowercase c

def isLetter (c : Char) : Bool :=
  if c.toNat < 128 then isAsciiLetter c
  else inRuns lowercaseLetters c || inRuns uppercaseLetters c || inRuns titlecaseLetters c
    || inRuns otherLetters c || inRuns modifierLetters c

/-- A letter, a number written as a letter, or a mark or symbol that belongs to words. -/
def isAlphabetic (c : Char) : Bool :=
  if c.toNat < 128 then isAsciiLetter c
  else isLetter c || inRuns letterNumbers c || isUpper c || isLower c
    || inRuns furtherAlphabetic c

def isNumeric (c : Char) : Bool :=
  if c.toNat < 128 then isAsciiDigit c
  else inRuns decimalDigits c || inRuns letterNumbers c || inRuns otherNumbers c

def isAlphanumeric (c : Char) : Bool := isAlphabetic c || isNumeric c

def isBlank (c : Char) : Bool := inRuns whiteSpace c

def isExtender (c : Char) : Bool :=
  if c.toNat < 128 then false
  else inRuns nonspacingMarks c || inRuns enclosingMarks c || inRuns furtherExtenders c

/-- A letter, mark, number, punctuation mark or symbol, or the ordinary space: the characters that
show on a page. -/
def isPrintable (c : Char) : Bool :=
  if c.toNat < 128 then 32 ≤ c.toNat && c.toNat < 127
  else isLetter c || isNumeric c
    || inRuns nonspacingMarks c || inRuns spacingMarks c || inRuns enclosingMarks c
    || inRuns otherPunctuation c || inRuns connectorPunctuation c || inRuns dashPunctuation c
    || inRuns openPunctuation c || inRuns closePunctuation c
    || inRuns initialQuotes c || inRuns finalQuotes c
    || inRuns otherSymbols c || inRuns mathSymbols c || inRuns currencySymbols c
    || inRuns modifierSymbols c

def isCased (c : Char) : Bool := isUpper c || isLower c || inRuns titlecaseLetters c

/-- A character that is passed over when looking for the cased letters around a place. -/
def isCaseIgnorable (c : Char) : Bool :=
  inRuns furtherCaseIgnorable c || inRuns nonspacingMarks c || inRuns enclosingMarks c
    || inRuns formats c || inRuns modifierLetters c || inRuns modifierSymbols c

end Text
end SchemaModels

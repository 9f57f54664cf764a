/-
Sets of characters that patterns call by name: classes such as `\w` and `[:alpha:]`, general
categories, scripts and a few properties.

Names are compared without case, spaces, underscores and hyphens, and an `is` before the name is
passed over.
-/
import SchemaModels.Pattern.CharSet
import SchemaModels.Pattern.ScriptTable

namespace SchemaModels
namespace Pattern

open Text CharSet

/-! ## Classes -/

def digitSet : CharSet := .runs decimalDigits

def spaceSet : CharSet := .runs whiteSpace

def markSet : CharSet := unionAll [.runs nonspacingMarks, .runs spacingMarks, .runs enclosingMarks]

def uppercaseSet : CharSet := .union (.runs uppercaseLetters) (.runs furtherUppercase)

def lowercaseSet : CharSet := .union (.runs lowercaseLetters) (.runs furtherLowercase)

def letterSet : CharSet :=
  unionAll [.runs lowercaseLetters, .runs uppercaseLetters, .runs otherLetters,
    .runs modifierLetters, .runs titlecaseLetters]

def alphabeticSet : CharSet :=
  unionAll [letterSet, .runs letterNumbers, .runs furtherUppercase, .runs furtherLowercase,
    .runs furtherAlphabetic]

/-- Word characters: alphabetic ones, marks, digits, connectors and the two joiners. -/
def wordSet : CharSet :=
  unionAll [alphabeticSet, markSet, digitSet, .runs connectorPunctuation,
    .range '\u200c' '\u200d']

def asciiDigitSet : CharSet := .range '0' '9'

def asciiSpaceSet : CharSet := .union (.range '\t' '\r') (.single ' ')

def asciiWordSet : CharSet :=
  unionAll [.range 'a' 'z', .range 'A' 'Z', asciiDigitSet, .single '_']

def posixSet? : String → Option CharSet
  | "alnum" => some (unionAll [.range '0' '9', .range 'A' 'Z', .range 'a' 'z'])
  | "alpha" => some (.union (.range 'A' 'Z') (.range 'a' 'z'))
  | "ascii" => some (.range '\x00' '\x7f')
  | "blank" => some (.union (.single '\t') (.single ' '))
  | "cntrl" => some (.union (.range '\x00' '\x1f') (.single '\x7f'))
  | "digit" => some asciiDigitSet
  | "graph" => some (.range '!' '~')
  | "lower" => some (.range 'a' 'z')
  | "print" => some (.range ' ' '~')
  | "punct" =>
    some (unionAll [.range '!' '/', .range ':' '@', .range '[' '\x60', .range '\x7b' '~'])
  | "space" => some asciiSpaceSet
  | "upper" => some (.range 'A' 'Z')
  | "word" => some asciiWordSet
  | "xdigit" => some (unionAll [asciiDigitSet, .range 'A' 'F', .range 'a' 'f'])
  | _ => none

/-! ## Properties -/

def looseName (name : String) : String :=
  let s := name.toList.filter fun c => c ≠ ' ' ∧ c ≠ '_' ∧ c ≠ '-' ∧ c.toNat < 128
  let s := s.map Char.toLower
  match s with
  | ['i', 's', 'c'] => "isc"
  | 'i' :: 's' :: rest => String.ofList rest
  | _ => String.ofList s

def runSets (runs : List (List CodeRun)) : CharSet := unionAll (runs.map .runs)

def assignedSet : CharSet :=
  unionAll [letterSet, markSet,
    runSets [decimalDigits, letterNumbers, otherNumbers],
    runSets [connectorPunctuation, dashPunctuation, openPunctuation, closePunctuation,
      initialQuotes, finalQuotes, otherPunctuation],
    runSets [mathSymbols, currencySymbols, modifierSymbols, otherSymbols],
    runSets [spaceSeparators, lineSeparators, paragraphSeparators],
    runSets [controls, formats, privateUse]]

def category? : String → Option CharSet
  | "any" => some .all
  | "assigned" => some assignedSet
  | "ascii" => some (.range '\x00' '\x7f')
  | "c" | "other" => some (.union (runSets [controls, formats, privateUse]) (.compl assignedSet))
  | "cc" | "control" | "cntrl" => some (.runs controls)
  | "cf" | "format" => some (.runs formats)
  | "cn" | "unassigned" => some (.compl assignedSet)
  | "co" | "privateuse" => some (.runs privateUse)
  | "cs" | "surrogate" => some .empty
  | "l" | "letter" => some letterSet
  | "lc" | "casedletter" =>
    some (runSets [uppercaseLetters, lowercaseLetters, titlecaseLetters])
  | "ll" | "lowercaseletter" => some (.runs lowercaseLetters)
  | "lm" | "modifierletter" => some (.runs modifierLetters)
  | "lo" | "otherletter" => some (.runs otherLetters)
  | "lt" | "titlecaseletter" => some (.runs titlecaseLetters)
  | "lu" | "uppercaseletter" => some (.runs uppercaseLetters)
  | "m" | "mark" | "combiningmark" => some markSet
  | "mc" | "spacingmark" => some (.runs spacingMarks)
  | "me" | "enclosingmark" => some (.runs enclosingMarks)
  | "mn" | "nonspacingmark" => some (.runs nonspacingMarks)
  | "n" | "number" => some (runSets [decimalDigits, letterNumbers, otherNumbers])
  | "nd" | "decimalnumber" | "digit" => some (.runs decimalDigits)
  | "nl" | "letternumber" => some (.runs letterNumbers)
  | "no" | "othernumber" => some (.runs otherNumbers)
  | "p" | "punctuation" | "punct" =>
    some (runSets [connectorPunctuation, dashPunctuation, openPunctuation, closePunctuation,
      initialQuotes, finalQuotes, otherPunctuation])
  | "pc" | "connectorpunctuation" => some (.runs connectorPunctuation)
  | "pd" | "dashpunctuation" => some (.runs dashPunctuation)
  | "pe" | "closepunctuation" => some (.runs closePunctuation)
  | "pf" | "finalpunctuation" => some (.runs finalQuotes)
  | "pi" | "initialpunctuation" => some (.runs initialQuotes)
  | "po" | "otherpunctuation" => some (.runs otherPunctuation)
  | "ps" | "openpunctuation" => some (.runs openPunctuation)
  | "s" | "symbol" => some (runSets [mathSymbols, currencySymbols, modifierSymbols, otherSymbols])
  | "sc" | "currencysymbol" => some (.runs currencySymbols)
  | "sk" | "modifiersymbol" => some (.runs modifierSymbols)
  | "sm" | "mathsymbol" => some (.runs mathSymbols)
  | "so" | "othersymbol" => some (.runs otherSymbols)
  | "z" | "separator" => some (runSets [spaceSeparators, lineSeparators, paragraphSeparators])
  | "zl" | "lineseparator" => some (.runs lineSeparators)
  | "zp" | "paragraphseparator" => some (.runs paragraphSeparators)
  | "zs" | "spaceseparator" => some (.runs spaceSeparators)
  | _ => none

def script? (name : String) : Option CharSet :=
  (scripts.find? fun s => s.names.contains name).map fun s => .runs s.runs

def property? : String → Option CharSet
  | "alphabetic" | "alpha" => some alphabeticSet
  | "uppercase" | "upper" => some uppercaseSet
  | "lowercase" | "lower" => some lowercaseSet
  | "whitespace" | "wspace" | "space" => some spaceSet
  | "cased" => some (unionAll [uppercaseSet, lowercaseSet, .runs titlecaseLetters])
  | "caseignorable" | "ci" =>
    some (runSets [furtherCaseIgnorable, nonspacingMarks, enclosingMarks, formats,
      modifierLetters, modifierSymbols])
  | "graphemeextend" | "grext" =>
    some (runSets [nonspacingMarks, enclosingMarks, furtherExtenders])
  | "asciihexdigit" | "ahex" =>
    some (unionAll [asciiDigitSet, .range 'A' 'F', .range 'a' 'f'])
  | _ => none

def namedSet? (name : String) : Option CharSet :=
  let name := looseName name
  property? name <|> category? name <|> script? name

def valueSet? (name value : String) : Option CharSet :=
  let value := looseName value
  match looseName name with
  | "generalcategory" | "gc" => category? value
  | "script" | "sc" => script? value
  | _ => none

end Pattern
end SchemaModels

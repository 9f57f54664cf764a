/-
Labels: a short name for a field, taken from its documentation.

Documentation is usually a sentence, and its beginning makes a good label.  The beginning is found
in two rounds: `aggressiveCut` cuts at punctuation while the label is longer than it need be, and
`progressiveCut` cuts before stopwords until the label fits, then drops whatever dangles at its end.
A label that still does not fit gives way to the attribute name.  Within one class no label is used
twice: one that is taken gets the attribute name behind it, and if that is taken too, a number.
-/
import SchemaModels.Label.Stopwords
import SchemaModels.Text.Case
import SchemaModels.Text.Split

namespace SchemaModels

open Text

/-- The marks at which a text may be cut, in the order in which they are tried. -/
def strongPunctuation : List String := [". ", ", ", " (", " - ", ".", ",", ": ", "|"]

structure LabelOptions where
  /-- A label this short is not cut at punctuation any more. -/
  minLength : Nat
  /-- A label longer than this is cut at stopwords, or given up. -/
  maxLength : Nat
  stopwords : List String
  /-- Beginnings that say nothing about the field. -/
  uselessStarts : List String
deriving Repr, DecidableEq

/-- A label, and the documentation as help where the label does not say it all. -/
structure Label where
  text : String
  help : Option String
deriving Repr, DecidableEq

namespace Label

/-! ## Cutting at punctuation -/

/-- Cut at the last occurrence of a token while more than `minLength` characters are left. -/
def cutAtToken (minLength : Nat) (token s : List Char) : List Char :=
  if minLength < s.length then
    match splitLast? token s with
    | some (head, _) =>
      if _h : head.length < s.length then cutAtToken minLength token head else s
    | none => s
  else s
termination_by s.length

/-- The first line with its words joined by single spaces, cut at strong punctuation. -/
def aggressiveCut (minLength : Nat) (doc : List Char) : List Char :=
  strongPunctuation.foldl (fun s token => cutAtToken minLength token.toList s)
    (joinWith [' '] (words (firstLine doc)))

/-! ## Cutting at stopwords -/

def stopwordTokens (stopwords : List String) : List (List Char) :=
  stopwords.map fun w => [' '] ++ w.toList ++ [' ']

/-- The longest beginning, not empty, after which one of the tokens stands for the last time. -/
def longestHead (tokens : List (List Char)) (s : List Char) : List Char :=
  tokens.foldl (fun best token =>
    match splitLast? token s with
    | some (head, _) => if best.length < head.length then head else best
    | none => best) []

def cutToFit (maxLength : Nat) (tokens : List (List Char)) (s : List Char) : List Char :=
  if maxLength < s.length then
    let head := longestHead tokens s
    if _h : !head.isEmpty ∧ head.length < s.length then cutToFit maxLength tokens head else s
  else s
termination_by s.length
decreasing_by exact _h.2

def danglingEnds (tokens : List (List Char)) : List (List Char) :=
  (strongPunctuation.map String.toList ++ tokens).map trimEnd

/-- The loop whose passes leave the text as it is.  It is never left. -/
def passForever (s : List Char) : List Char := passForever s
partial_fixpoint

/-- Drop dangling ends, and the white space before them, until none is left.  An empty end, which
only a blank stopword brings, dangles for ever. -/
def dropDangling (ends : List (List Char)) (s : List Char) : List Char :=
  match ends.find? fun e => endsWith e s with
  | some e =>
    match before? e s with
    | some head =>
      if _h : (trimEnd head).length < s.length then dropDangling ends (trimEnd head)
      else passForever s
    | none => s
  | none => s
termination_by s.length

/-- Make a text fit by cutting at stopwords, and close it properly. -/
def progressiveCut (options : LabelOptions) (s : List Char) : List Char :=
  let tokens := stopwordTokens options.stopwords
  dropDangling (danglingEnds tokens) (cutToFit options.maxLength tokens s)

/-! ## From documentation to label -/

/-- The documentation without the useless starts, each tried once in turn, case ignored. -/
def stripUselessStarts (starts : List String) (doc : List Char) : List Char :=
  starts.foldl (fun doc start =>
    if beginsWith (lowerAll start.toList) (lowerAll doc) then doc.drop start.length else doc) doc

def cleanDoc (options : LabelOptions) (doc : List Char) : List Char :=
  stripUselessStarts options.uselessStarts ((trim doc).filter (· ≠ '"'))

def dropOpenParenthesis (s : List Char) : List Char :=
  if s.contains '(' ∧ ¬ s.contains ')' then trim (s.takeWhile (· ≠ '(')) else s

/-- The label found in a documentation text, or the attribute name if there is none that fits. -/
def ofDoc (options : LabelOptions) (name doc : List Char) : List Char :=
  let label := dropOpenParenthesis
    (progressiveCut options (aggressiveCut options.minLength doc))
  if label.isEmpty ∨ options.maxLength < label.length then name else label

/-- The label of a field before it is compared with others, and its help. -/
def propose (options : LabelOptions) (name : String) (doc : Option String) : Label :=
  match doc with
  | none => ⟨name, none⟩
  | some doc =>
    if (trim doc.toList).isEmpty then ⟨name, none⟩
    else
      let doc := cleanDoc options doc.toList
      let label := ofDoc options name.toList doc
      ⟨String.ofList label,
        if label ≠ doc ∧ doc.dropLast ≠ label then some (String.ofList doc) else none⟩

/-! ## Telling labels apart -/

/-- The name with a number behind it, shortened to fit. -/
def numbered (name : String) (maxLength n : Nat) : String :=
  let suffix := " (" ++ toString n ++ ")"
  String.ofList (trimEnd (name.toList.take (maxLength - suffix.length))) ++ suffix

/-- The label with the attribute name behind it, or the attribute name alone if that is too long. -/
def qualified (name text : String) (maxLength : Nat) : String :=
  let long := text ++ " (" ++ name ++ ")"
  if maxLength < long.length then name else long

/-- The first numbered name, from two on, that is not used.  One more number than there are used
labels is enough to find it. -/
def firstFree (used : List String) (name : String) (maxLength : Nat) : String :=
  let candidates := (List.range (used.length + 1)).map fun k => numbered name maxLength (k + 2)
  (candidates.find? fun s => !used.contains s).getD name

/-- A text that is not used yet. -/
def distinguish (used : List String) (name text : String) (maxLength : Nat) : String :=
  if used.contains text then
    let long := qualified name text maxLength
    if used.contains long then firstFree used name maxLength else long
  else text

/-- The label of a field, different from all used ones.  The caller adds it to the used ones. -/
def extract (options : LabelOptions) (used : List String) (name : String)
    (doc : Option String) : Label :=
  let proposal := propose options name doc
  { proposal with text := distinguish used name proposal.text options.maxLength }

def use (used : List String) (label : Label) : List String :=
  if used.contains label.text then used else used ++ [label.text]

end Label

end SchemaModels

/-
Docstrings: documentation as a string literal spread over lines.

The literal is triple-quoted if it is long, has several lines or holds a double quote; a text that
begins or ends with a quote is kept apart from the delimiter by a space.  Lines are filled greedily
and words are never split.
-/
import SchemaModels.Source.Literal
import SchemaModels.Text.Split

namespace SchemaModels
namespace Docstring

open Text

/-! ## Filling lines -/

/-- Fill a line word by word: a word that does not fit closes the line, unless it is the first. -/
def fillFrom (current : List Char) (limit width : Nat) : List (List Char) → List (List Char)
  | [] => if current.isEmpty then [] else [current]
  | word :: rest =>
    if current.isEmpty then fillFrom word limit width rest
    else if current.length + 1 + word.length > limit then
      current :: fillFrom word width width rest
    else fillFrom (current ++ [' '] ++ word) limit width rest

/-- The words of a line on lines of `firstWidth` characters, then `width`. -/
def fill (line : List Char) (firstWidth width : Nat) : List (List Char) :=
  fillFrom [] firstWidth width (words line)

/-! ## The literal -/

def initialIndent : Nat := 4

def delimiter (text : List Char) (width : Nat) : List Char :=
  if text.length + initialIndent + 8 > width ∨ text.contains '\n' ∨ text.contains '"' then
    ['"', '"', '"']
  else ['"']

def delimited (text quote : List Char) : List Char :=
  quote ++ (if beginsWith ['"'] text then [' '] else []) ++ text
    ++ (if endsWith ['"'] text then [' '] else []) ++ quote

/-- The lines of the literal: the first one has less room than the others. -/
def wrapLines (quotedLines : List (List Char)) (indent width : Nat) : List (List Char) :=
  match quotedLines with
  | [] => []
  | first :: rest =>
    let firstWidth := width - initialIndent
    fill first firstWidth (firstWidth - indent)
      ++ rest.flatMap fun line => fill line width (width - indent)

/-- The text as a literal whose further lines are indented; blank text gives nothing. -/
def wrap (text : List Char) (indent width : Nat) : List Char :=
  let text := trim text
  if text.isEmpty then []
  else
    joinWith ('\n' :: List.replicate indent ' ')
      (wrapLines (lines (delimited text (delimiter text width))) indent width)

def wrapText (text : String) (indent width : Nat) : String :=
  String.ofList (wrap text.toList indent width)

def lineWidth : Nat := 79

def ofDoc (doc : Option String) : String :=
  match doc with
  | some doc => wrapText doc initialIndent lineWidth
  | none => ""

def description (name : String) (hasDocstring : Bool) : String :=
  if hasDocstring then "textwrap.dedent(\"    %s\" % (__doc__,))" else Literal.quote name

end Docstring
end SchemaModels

/-
The texts of scalars: plain, quoted, and in blocks.

In plain and quoted scalars the white space between two words is kept on a line and folded across
lines: one line end becomes a space, further ones are kept.  In a block the indentation is taken
off, and lines are kept or folded as the block says.
-/
import SchemaModels.Document.Yaml.Cursor
import SchemaModels.Document.Yaml.Token

namespace SchemaModels
namespace Yaml

/-! ## White space between words -/

structure Gap where
  /-- The blanks, while no line has ended. -/
  blanks : List Char := []
  /-- A line has ended. -/
  broken : Bool := false
  /-- How the first line end is read; nothing if it is escaped. -/
  first : List Char := []
  /-- How the further line ends are read. -/
  further : List Char := []

namespace Gap

def addBlank (gap : Gap) (c : Char) : Gap :=
  if gap.broken then gap else { gap with blanks := gap.blanks ++ [c] }

def addBreak (gap : Gap) (b : List Char) : Gap :=
  if gap.broken then { gap with further := gap.further ++ b }
  else { broken := true, first := b }

def text (gap : Gap) : List Char :=
  if !gap.broken then gap.blanks
  else if gap.first = ['\n'] then (if gap.further.isEmpty then [' '] else gap.further)
  else gap.first ++ gap.further

end Gap

/-! ## Plain scalars -/

/-- A colon that is followed by a flow indicator is not allowed in a flow collection. -/
def isStrayColon (s : List Char) : Bool :=
  match s with
  | ':' :: c :: _ => c = ',' || c = '?' || c = '[' || c = ']' || c = '\x7b' || c = '\x7d'
  | _ => false

def endsPlain (inFlow : Bool) (s : List Char) : Bool :=
  match s with
  | [] => true
  | c :: rest =>
    (c = ':' && atGap rest)
      || (inFlow && (c = ',' || c = '[' || c = ']' || c = '\x7b' || c = '\x7d'))

/-- The rest of a plain scalar: its characters in reverse, the gap behind it and the place behind
that. -/
def plainFrom (inFlow : Bool) (indent : Int) :
    Nat → List Char → Gap → Cursor → Option (List Char × Gap × Cursor)
  | 0, acc, gap, c => some (acc, gap, c)
  | fuel + 1, acc, gap, c =>
    match c.rest with
    | [] => some (acc, gap, c)
    | d :: _ =>
      if isBlank d then
        if gap.broken && (c.column : Int) < indent && d = '\t' then none
        else plainFrom inFlow indent fuel acc (gap.addBlank d) (c.skip 1)
      else if isBreak d then
        let (b, c) := c.lineBreak
        plainFrom inFlow indent fuel acc (gap.addBreak b) c
      else
        let afterGap := gap.broken || !gap.blanks.isEmpty
        if afterGap && !inFlow && (c.column : Int) < indent then some (acc, gap, c)
        else if c.isDocumentMarker || (afterGap && d = '#') then some (acc, gap, c)
        else if inFlow && isStrayColon c.rest then none
        else if endsPlain inFlow c.rest then some (acc, gap, c)
        else plainFrom inFlow indent fuel (d :: (gap.text.reverse ++ acc)) {} (c.skip 1)

/-- A plain scalar, whether a line ended behind it, and the place where the next token may be. -/
def plainScalar (inFlow : Bool) (indent : Int) (c : Cursor) :
    Option (String × Bool × Cursor) := do
  let (acc, gap, c) ← plainFrom inFlow indent (c.left + 1) [] {} c
  return (String.ofList acc.reverse, gap.broken, c)

/-! ## Quoted scalars -/

def hexValue? (c : Char) : Option Nat :=
  if '0' ≤ c ∧ c ≤ '9' then some (c.toNat - 48)
  else if 'a' ≤ c ∧ c ≤ 'f' then some (c.toNat - 87)
  else if 'A' ≤ c ∧ c ≤ 'F' then some (c.toNat - 55)
  else none

def codedChar? (n : Nat) (c : Cursor) : Option (Char × Cursor) := do
  let digits ← (c.rest.take n).mapM hexValue?
  if digits.length < n then none
  else
    let code := digits.foldl (fun a d => a * 16 + d) 0
    if (0xD800 ≤ code ∧ code ≤ 0xDFFF) ∨ 0x10FFFF < code then none
    else return (Char.ofNat code, c.skip n)

def escaped? (c : Cursor) : Option (Char × Cursor) :=
  let single := fun (d : Char) => some (d, c.skip 1)
  match c.rest with
  | '0' :: _ => single '\x00'
  | 'a' :: _ => single '\x07'
  | 'b' :: _ => single '\x08'
  | 't' :: _ | '\t' :: _ => single '\t'
  | 'n' :: _ => single '\n'
  | 'v' :: _ => single '\x0b'
  | 'f' :: _ => single '\x0c'
  | 'r' :: _ => single '\r'
  | 'e' :: _ => single '\x1b'
  | ' ' :: _ => single ' '
  | '"' :: _ => single '"'
  | '/' :: _ => single '/'
  | '\\' :: _ => single '\\'
  | 'N' :: _ => single '\x85'
  | '_' :: _ => single '\xa0'
  | 'L' :: _ => single '\u2028'
  | 'P' :: _ => single '\u2029'
  | 'x' :: _ => codedChar? 2 (c.skip 1)
  | 'u' :: _ => codedChar? 4 (c.skip 1)
  | 'U' :: _ => codedChar? 8 (c.skip 1)
  | _ => none

def quotedFrom (single : Bool) : Nat → List Char → Gap → Cursor → Option (List Char × Cursor)
  | 0, _, _, _ => none
  | fuel + 1, acc, gap, c =>
    if c.isDocumentMarker then none
    else
      match c.rest with
      | [] => none
      | d :: rest =>
        if isBlank d then quotedFrom single fuel acc (gap.addBlank d) (c.skip 1)
        else if isBreak d then
          let (b, c) := c.lineBreak
          quotedFrom single fuel acc (gap.addBreak b) c
        else
          let acc := gap.text.reverse ++ acc
          if single && d = '\'' then
            if rest.head? = some '\'' then quotedFrom single fuel ('\'' :: acc) {} (c.skip 2)
            else some (acc, c.skip 1)
          else if !single && d = '"' then some (acc, c.skip 1)
          else if !single && d = '\\' then
            if rest.head?.any isBreak then
              quotedFrom single fuel acc { broken := true } ((c.skip 1).lineBreak).2
            else do
              let (e, c) ← escaped? (c.skip 1)
              quotedFrom single fuel (e :: acc) {} c
          else quotedFrom single fuel (d :: acc) {} (c.skip 1)

def quotedScalar (single : Bool) (c : Cursor) : Option (String × Cursor) := do
  let (acc, c) ← quotedFrom single (c.left + 1) [] {} (c.skip 1)
  return (String.ofList acc.reverse, c)

/-! ## Blocks -/

inductive Chomping where
  | strip
  | clip
  | keep
deriving DecidableEq

def chomping? : Option Char → Option Chomping
  | some '+' => some .keep
  | some '-' => some .strip
  | _ => none

/-- The header of a block behind its indicator: chomping, and an indentation if it is given. -/
def blockHeader (c : Cursor) : Option (Chomping × Option Nat × Cursor) :=
  let digit? := fun (c : Cursor) =>
    (c.peek?.filter fun d => '0' ≤ d ∧ d ≤ '9').map fun d => d.toNat - 48
  match chomping? c.peek? with
  | some chomping =>
    let c := c.skip 1
    match digit? c with
    | some 0 => none
    | some n => some (chomping, some n, c.skip 1)
    | none => some (chomping, none, c)
  | none =>
    match digit? c with
    | some 0 => none
    | some n =>
      let c := c.skip 1
      match chomping? c.peek? with
      | some chomping => some (chomping, some n, c.skip 1)
      | none => some (.clip, some n, c)
    | none => some (.clip, none, c)

/-- Pass over indentation and empty lines: the line ends passed, the deepest indentation seen and
the place reached.  Without a known indentation all leading spaces are passed over. -/
def blockGap (indent : Option Nat) :
    Nat → List Char → Nat → Cursor → Option (List Char × Nat × Cursor)
  | 0, _, _, _ => none
  | fuel + 1, breaks, deepest, c =>
    let spaces := (c.rest.takeWhile (· = ' ')).length
    let c := c.skip (match indent with
      | none => spaces
      | some n => min spaces (n - c.column))
    let deepest := max deepest c.column
    if c.isAt '\t' && indent.all (c.column < ·) then none
    else if c.rest.head?.any isBreak then
      let (b, c) := c.lineBreak
      blockGap indent fuel (breaks ++ b) deepest c
    else some (breaks, deepest, c)

structure BlockState where
  /-- The characters so far, in reverse. -/
  acc : List Char := []
  /-- The end of the last line. -/
  lineEnd : List Char := []
  /-- The ends of the empty lines behind it. -/
  emptyLines : List Char := []
  /-- The last line began with a blank. -/
  afterBlank : Bool := false

def blockLines (folded : Bool) (indent : Nat) :
    Nat → BlockState → Cursor → Option (BlockState × Cursor)
  | 0, _, _ => none
  | fuel + 1, state, c =>
    if c.column ≠ indent || c.rest.isEmpty then some (state, c)
    else do
      let beginsBlank := c.rest.head?.any isBlank
      let joint :=
        if folded && state.lineEnd = ['\n'] && !state.afterBlank && !beginsBlank then
          (if state.emptyLines.isEmpty then [' '] else []) ++ state.emptyLines
        else state.lineEnd ++ state.emptyLines
      let (line, c) := c.takeWhile fun d => !isBreak d
      let (lineEnd, c) := c.lineBreak
      let (breaks, _, c) ← blockGap (some indent) (c.left + 1) [] 0 c
      blockLines folded indent fuel
        { acc := line.reverse ++ (joint.reverse ++ state.acc)
          lineEnd := lineEnd
          emptyLines := breaks
          afterBlank := beginsBlank } c

/-- A scalar in a block, given the indentation of the collection it belongs to, and the place behind
it. -/
def blockScalar (folded : Bool) (outer : Int) (c : Cursor) : Option (String × Cursor) := do
  let (chomping, increment, c) ← blockHeader (c.skip 1)
  let c := c.skipWhile isBlank
  let c := if c.isAt '#' then c.skipWhile (fun d => !isBreak d) else c
  if !atLineEnd c.rest then none
  else
    let (_, c) := c.lineBreak
    let given := increment.map fun n => if 0 ≤ outer then outer.toNat + n else n
    let (breaks, deepest, c) ← blockGap given (c.left + 1) [] 0 c
    let indent := given.getD (max deepest (max (outer + 1).toNat 1))
    let (state, c) ← blockLines folded indent (c.left + 1) { emptyLines := breaks } c
    let ending := match chomping with
      | .strip => []
      | .clip => state.lineEnd
      | .keep => state.lineEnd ++ state.emptyLines
    return (String.ofList (state.acc.reverse ++ ending), c)

end Yaml
end SchemaModels

/-
From YAML text to tokens.

Two things make the work.  Indentation opens and closes block collections, which is kept track of by
a stack of columns.  And a key need not be marked in advance: any token that may begin a key is
remembered as a possible one until its colon is found, its line ends, or it grows too long; when the
colon comes, the tokens for the key are put in before it.  Where the text breaks, tokens from the
first possible key on are withheld, because it was not settled what they are.
-/
import SchemaModels.Document.Yaml.ScalarText

namespace SchemaModels
namespace Yaml

/-! ## State -/

structure PossibleKey where
  /-- The number of the token. -/
  token : Nat
  /-- Nothing but a key can stand here. -/
  required : Bool
  index : Nat
  line : Nat
  column : Nat

structure Lexer where
  cursor : Cursor
  /-- The tokens so far, in reverse. -/
  tokens : List Token := []
  /-- How many tokens there are. -/
  count : Nat := 0
  /-- How many flow collections are open. -/
  flow : Nat := 0
  /-- The column of the innermost block collection, or one less than any column. -/
  indent : Int := -1
  /-- The columns of the collections around it. -/
  outer : List Int := []
  /-- A key may begin here. -/
  keyAllowed : Bool := true
  /-- The possible keys of the open flow collections, innermost first, and of the block around. -/
  keys : List (Option PossibleKey) := [none]
  finished : Bool := false

namespace Lexer

def emit (lx : Lexer) (t : Token) : Lexer :=
  { lx with tokens := t :: lx.tokens, count := lx.count + 1 }

def emitMark (lx : Lexer) (t : Token) : Lexer := { lx.emit t with cursor := lx.cursor.skip 1 }

def insertAt (lx : Lexer) (number : Nat) (ts : List Token) : Lexer :=
  let later := lx.count - number
  { lx with
    tokens := lx.tokens.take later ++ ts.reverse ++ lx.tokens.drop later
    count := lx.count + ts.length }

/-! ## Indentation -/

/-- Open a block collection if the column lies deeper than the one that is open: the lexer, and the
tokens that open it. -/
def rollIndent (lx : Lexer) (column : Nat) (opening : Token) : Lexer × List Token :=
  if lx.flow = 0 ∧ lx.indent < column then
    ({ lx with indent := column, outer := lx.indent :: lx.outer }, [opening])
  else (lx, [])

def rollHere (lx : Lexer) (opening : Token) : Lexer :=
  let (lx, ts) := lx.rollIndent lx.cursor.column opening
  ts.foldl emit lx

def closeBlocks (column : Int) : List Int → Lexer → Lexer
  | [], lx => lx
  | next :: rest, lx =>
    if column < lx.indent then
      closeBlocks column rest { lx.emit .blockEnd with indent := next, outer := rest }
    else lx

/-- Close the block collections that lie deeper than a column, unless a flow collection is open. -/
def unrollIndent (lx : Lexer) (column : Int) : Lexer :=
  if lx.flow = 0 then closeBlocks column lx.outer lx else lx

/-! ## Possible keys -/

def removeKey (lx : Lexer) : Option Lexer :=
  match lx.keys with
  | some key :: rest => if key.required then none else some { lx with keys := none :: rest }
  | _ => some lx

def saveKey (lx : Lexer) : Option Lexer :=
  if lx.keyAllowed then do
    let lx ← lx.removeKey
    let c := lx.cursor
    let key : PossibleKey :=
      { token := lx.count
        required := lx.flow == 0 && lx.indent == c.column
        index := c.index
        line := c.line
        column := c.column }
    return { lx with keys := some key :: lx.keys.tail }
  else some lx

/-- A possible key that lies on an earlier line, or too far back. -/
def isStale (lx : Lexer) (key : PossibleKey) : Bool :=
  key.line < lx.cursor.line || key.index + 1024 < lx.cursor.index

def dropStaleKeys (lx : Lexer) : Option Lexer := do
  let keys ← lx.keys.mapM fun key? =>
    match key? with
    | some key => if lx.isStale key then (if key.required then none else some none) else some key?
    | none => some none
  return { lx with keys := keys }

/-! ## Between tokens -/

/-- Move to the next token: over blanks, comments and line ends.  Tabs do not count as blanks where
they would be indentation. -/
def toNextToken : Nat → Lexer → Lexer
  | 0, lx => lx
  | fuel + 1, lx =>
    let c := lx.cursor
    let c := if c.column = 0 && c.isAt '\ufeff' then c.skip 1 else c
    let tabs := 0 < lx.flow || !lx.keyAllowed
    let c := c.skipWhile fun d => d = ' ' || (tabs && d = '\t')
    let c := if c.isAt '#' then c.skipWhile (fun d => !isBreak d) else c
    if c.rest.head?.any isBreak then
      toNextToken fuel
        { lx with cursor := (c.lineBreak).2, keyAllowed := lx.keyAllowed || lx.flow == 0 }
    else { lx with cursor := c }

/-! ## Directives, tags and anchors -/

def versionNumber? (c : Cursor) : Option (Nat × Cursor) :=
  let (digits, c) := c.takeWhile fun d => '0' ≤ d && d ≤ '9'
  if digits.isEmpty || 9 < digits.length then none
  else some (digits.foldl (fun n d => n * 10 + (d.toNat - 48)) 0, c)

def isTagChar (verbatim : Bool) (d : Char) : Bool :=
  isNameChar d || ";/?:@&=+$.!~*'()%".toList.contains d
    || (verbatim && (d = ',' || d = '[' || d = ']'))

/-- The bytes of a character written as escapes, given how many follow the first. -/
def escapedBytes : Nat → Nat → List Char → Option (Nat × List Char)
  | 0, code, s => some (code, s)
  | n + 1, code, s =>
    match s with
    | '%' :: a :: b :: rest => do
      let byte := (← hexValue? a) * 16 + (← hexValue? b)
      if byte / 64 = 2 then escapedBytes n (code * 64 + byte % 64) rest else none
    | _ => none

def escapedChar? : List Char → Option (Char × List Char)
  | '%' :: a :: b :: rest => do
    let byte := (← hexValue? a) * 16 + (← hexValue? b)
    let (code, rest) ←
      if byte < 128 then some (byte, rest)
      else if byte / 32 = 6 then escapedBytes 1 (byte % 32) rest
      else if byte / 16 = 14 then escapedBytes 2 (byte % 16) rest
      else if byte / 8 = 30 then escapedBytes 3 (byte % 8) rest
      else none
    return (Char.ofNat code, rest)
  | _ => none

def tagCharsFrom (verbatim : Bool) : Nat → List Char → Option (List Char × List Char)
  | 0, _ => none
  | _ + 1, [] => some ([], [])
  | fuel + 1, d :: s =>
    if d = '%' then do
      let (e, rest) ← escapedChar? (d :: s)
      let (cs, rest) ← tagCharsFrom verbatim fuel rest
      return (e :: cs, rest)
    else if isTagChar verbatim d then do
      let (cs, rest) ← tagCharsFrom verbatim fuel s
      return (d :: cs, rest)
    else some ([], d :: s)

def tagChars (verbatim : Bool) (c : Cursor) : Option (List Char × Cursor) := do
  let (cs, rest) ← tagCharsFrom verbatim (c.left + 1) c.rest
  return (cs, c.skip (c.rest.length - rest.length))

/-- A handle: an exclamation mark, perhaps with a name and a second mark.  Without the second mark
it may be the beginning of a tag. -/
def tagHandle? (c : Cursor) : Option (List Char × Cursor) :=
  if c.isAt '!' then
    let (name, c) := (c.skip 1).takeWhile isNameChar
    if c.isAt '!' then some (['!'] ++ name ++ ['!'], c.skip 1) else some ('!' :: name, c)
  else none

def tagDirective? (c : Cursor) : Option (Token × Cursor) := do
  let (handle, c) ← tagHandle? (c.skipWhile isBlank)
  if handle.getLast? ≠ some '!' then none
  else if !c.peek?.any isBlank then none
  else
    let (start, c) ← tagChars true (c.skipWhile isBlank)
    if start.isEmpty || !atGap c.rest then none
    else some (.tagHandle (String.ofList handle) (String.ofList start), c)

def versionDirective? (c : Cursor) : Option (Token × Cursor) := do
  let (major, c) ← versionNumber? (c.skipWhile isBlank)
  if c.isAt '.' then
    let (minor, c) ← versionNumber? (c.skip 1)
    return (.version major minor, c)
  else none

def directive (c : Cursor) : Option (Token × Cursor) := do
  let (name, c) := (c.skip 1).takeWhile isNameChar
  if !atGap c.rest then none
  else
    let (t, c) ←
      if name = "YAML".toList then versionDirective? c
      else if name = "TAG".toList then tagDirective? c
      else none
    let c := c.skipWhile isBlank
    let c := if c.isAt '#' then c.skipWhile (fun d => !isBreak d) else c
    if atLineEnd c.rest then some (t, (c.lineBreak).2) else none

/-- A tag: verbatim between angle brackets, or after a handle. -/
def tag (inFlow : Bool) (c : Cursor) : Option (Token × Cursor) := do
  let (handle, suffix, c) ←
    if (c.skip 1).isAt '<' then do
      let (uri, c) ← tagChars true (c.skip 2)
      if uri.isEmpty || !c.isAt '>' then none else pure ([], uri, c.skip 1)
    else do
      let (handle, c) ← tagHandle? c
      if 1 < handle.length ∧ handle.getLast? = some '!' then
        let (suffix, c) ← tagChars false c
        if suffix.isEmpty then none else pure (handle, suffix, c)
      else
        let (more, c) ← tagChars false c
        let suffix := handle.drop 1 ++ more
        if suffix.isEmpty then pure ([], ['!'], c) else pure (['!'], suffix, c)
  if atGap c.rest || (inFlow && c.isAt ',') then
    return (.tag (String.ofList handle) (String.ofList suffix), c)
  else none

def anchorName (c : Cursor) : Option (String × Cursor) :=
  let (name, c) := (c.skip 1).takeWhile isNameChar
  if name.isEmpty then none
  else if atGap c.rest || c.rest.head?.any fun d => "?:,]\x7d%@\x60".toList.contains d then
    some (String.ofList name, c)
  else none

/-! ## One token after the other -/

def keyToken (lx : Lexer) (read : Cursor → Option (Token × Cursor)) : Option Lexer := do
  let lx ← lx.saveKey
  let (t, c) ← read lx.cursor
  return { lx.emit t with cursor := c, keyAllowed := false }

def flowStart (lx : Lexer) (t : Token) : Option Lexer := do
  let lx ← lx.saveKey
  return { lx.emitMark t with flow := lx.flow + 1, keys := none :: lx.keys, keyAllowed := true }

def flowEnd (lx : Lexer) (t : Token) : Option Lexer := do
  let lx ← lx.removeKey
  let lx := if lx.flow = 0 then lx else { lx with flow := lx.flow - 1, keys := lx.keys.tail }
  return { lx.emitMark t with keyAllowed := false }

def flowComma (lx : Lexer) : Option Lexer := do
  let lx ← lx.removeKey
  return { lx.emitMark .flowEntry with keyAllowed := true }

def openBlock (lx : Lexer) (opening : Token) : Option Lexer :=
  if 0 < lx.flow then some lx
  else if lx.keyAllowed then some (lx.rollHere opening)
  else none

def hyphen (lx : Lexer) : Option Lexer := do
  let lx ← (← lx.openBlock .blockListStart).removeKey
  return { lx.emitMark .blockEntry with keyAllowed := true }

def questionMark (lx : Lexer) : Option Lexer := do
  let lx ← (← lx.openBlock .blockRecordStart).removeKey
  return { lx.emitMark .key with keyAllowed := lx.flow == 0 }

def colon (lx : Lexer) : Option Lexer :=
  match lx.keys with
  | some key :: rest =>
    let (rolled, opening) := lx.rollIndent key.column .blockRecordStart
    let lx := rolled.insertAt key.token (opening ++ [.key])
    some { lx.emitMark .value with keys := none :: rest, keyAllowed := false }
  | _ => do
    let lx ← lx.openBlock .blockRecordStart
    return { lx.emitMark .value with keyAllowed := lx.flow == 0 }

def block (lx : Lexer) (style : Style) : Option Lexer := do
  let lx ← lx.removeKey
  let (text, c) ← blockScalar (style = .folded) lx.indent lx.cursor
  return { lx.emit (.scalar text style) with cursor := c, keyAllowed := true }

def quoted (lx : Lexer) (style : Style) : Option Lexer :=
  lx.keyToken fun c => do
    let (text, c) ← quotedScalar (style = .singleQuoted) c
    return (.scalar text style, c)

def plain (lx : Lexer) : Option Lexer := do
  let lx ← lx.saveKey
  let (text, broken, c) ← plainScalar (0 < lx.flow) (lx.indent + 1) lx.cursor
  return { lx.emit (.scalar text .plain) with cursor := c, keyAllowed := broken }

def beginsPlain (inFlow : Bool) : List Char → Bool
  | [] => false
  | d :: rest =>
    if d = '-' then !rest.head?.any isBlank
    else if d = '?' ∨ d = ':' then !inFlow && !atGap rest
    else !isBlank d && !isBreak d && !",[]\x7b\x7d#&*!|>'\"%@\x60".toList.contains d

def textEnd (lx : Lexer) : Option Lexer := do
  let lx ← (lx.unrollIndent (-1)).removeKey
  return { lx.emit .textEnd with finished := true }

def documentToken (lx : Lexer) (read : Cursor → Option (Token × Cursor)) : Option Lexer := do
  let lx ← (lx.unrollIndent (-1)).removeKey
  let (t, c) ← read lx.cursor
  return { lx.emit t with cursor := c, keyAllowed := false }

def dispatch (lx : Lexer) : Option Lexer :=
  let c := lx.cursor
  let inFlow := decide (0 < lx.flow)
  match c.rest with
  | [] => lx.textEnd
  | d :: rest =>
    if c.column = 0 && d = '%' then lx.documentToken directive
    else if c.isMarker '-' then lx.documentToken fun c => some (.documentStart, c.skip 3)
    else if c.isMarker '.' then lx.documentToken fun c => some (.documentEnd, c.skip 3)
    else if d = '[' then lx.flowStart .flowListStart
    else if d = '\x7b' then lx.flowStart .flowRecordStart
    else if d = ']' then lx.flowEnd .flowListEnd
    else if d = '\x7d' then lx.flowEnd .flowRecordEnd
    else if d = ',' then lx.flowComma
    else if d = '-' && atGap rest then lx.hyphen
    else if d = '?' && (inFlow || atGap rest) then lx.questionMark
    else if d = ':' && (inFlow || atGap rest) then lx.colon
    else if d = '*' then lx.keyToken fun c => do
      let (name, c) ← anchorName c
      return (.reference name, c)
    else if d = '&' then lx.keyToken fun c => do
      let (name, c) ← anchorName c
      return (.anchor name, c)
    else if d = '!' then lx.keyToken (tag inFlow)
    else if d = '|' && !inFlow then lx.block .literal
    else if d = '>' && !inFlow then lx.block .folded
    else if d = '\'' then lx.quoted .singleQuoted
    else if d = '"' then lx.quoted .doubleQuoted
    else if beginsPlain inFlow c.rest then lx.plain
    else none

def step (lx : Lexer) : Option Lexer := do
  let lx ← (lx.toNextToken (lx.cursor.left + 1)).dropStaleKeys
  (lx.unrollIndent lx.cursor.column).dispatch

def settled (lx : Lexer) : List Token :=
  let unsettled := lx.keys.filterMap fun key? => key?.map PossibleKey.token
  lx.tokens.reverse.take (unsettled.foldl min lx.count)

def run : Nat → Lexer → List Token
  | 0, lx => lx.settled
  | fuel + 1, lx =>
    if lx.finished then lx.tokens.reverse
    else
      match lx.step with
      | some next => run fuel next
      | none => lx.settled

end Lexer

/-- The tokens of a text; the last one marks its end unless the text breaks.  Every token but that
has characters of its own, so the length of the text bounds their number. -/
def tokens (text : String) : List Token :=
  let s := text.toList
  if s.all isAllowed then Lexer.run (s.length + 2) { cursor := .ofText s } else []

end Yaml
end SchemaModels

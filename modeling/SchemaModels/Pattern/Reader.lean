/-
Reading patterns.

The reader goes through the source once.  It carries the flags in force, which a group may change
for itself and a lone `(?i)` changes up to the end of its group, and the names of the groups so
far, which must differ.  Each function returns what it has read and the rest of the source, and
fails on everything that is no pattern.
-/
import SchemaModels.Pattern.Basic
import SchemaModels.Text.Numeral
import SchemaModels.Text.Split

namespace SchemaModels
namespace Pattern
namespace Reader

open Text

structure Flags where
  ignoreCase : Bool := false
  multiLine : Bool := false
  dotAll : Bool := false
  anyLineEnd : Bool := false
  ascii : Bool := false
  spaced : Bool := false

/-! ## Blank space between signs -/

def skipComment : List Char → List Char
  | [] => []
  | c :: rest => if c = '\n' then rest else skipComment rest

theorem length_skipComment (s : List Char) : (skipComment s).length ≤ s.length := by
  induction s with
  | nil => simp [skipComment]
  | cons c rest ih =>
    simp only [skipComment]
    split
    · simp
    · simp only [List.length_cons]; omega

def skipBlank (spaced : Bool) : List Char → List Char
  | [] => []
  | c :: rest =>
    if !spaced then c :: rest
    else if isBlank c then skipBlank spaced rest
    else if c = '#' then
      have := length_skipComment rest
      skipBlank spaced (skipComment rest)
    else c :: rest
termination_by s => s.length
decreasing_by all_goals simp only [List.length_cons]; omega

/-! ## Numbers -/

def hexDigit? (c : Char) : Option Nat :=
  if '0' ≤ c && c ≤ '9' then some (c.toNat - 48)
  else if 'a' ≤ c && c ≤ 'f' then some (c.toNat - 87)
  else if 'A' ≤ c && c ≤ 'F' then some (c.toNat - 55)
  else none

def charOf? (n : Nat) : Option Char := if n.isValidChar then some (Char.ofNat n) else none

def readHexDigits (spaced : Bool) : Nat → Nat → List Char → Option (Nat × List Char)
  | 0, value, s => some (value, s)
  | count + 1, value, s =>
    match s with
    | [] => none
    | c :: rest =>
      match hexDigit? c with
      | none => none
      | some d => readHexDigits spaced count (value * 16 + d) (skipBlank spaced rest)

def untilBrace (spaced : Bool) : Nat → List Char → Option (List Char × List Char)
  | 0, _ => none
  | fuel + 1, s =>
    match skipBlank spaced s with
    | [] => none
    | c :: rest =>
      if c = '\x7d' then some ([], rest)
      else (untilBrace spaced fuel rest).map fun (inner, rest) => (c :: inner, rest)

/-- Read the character given by its code point after `\x`, `\u` or `\U`; the flag tells a single
byte written with two digits. -/
def readHex (flags : Flags) (count : Nat) (s : List Char) : Option (Char × Bool × List Char) :=
  match skipBlank flags.spaced s with
  | '\x7b' :: rest => do
    let (digits, rest) ← untilBrace flags.spaced (rest.length + 1) rest
    if digits.isEmpty then none
    let value ← digits.foldlM (fun n c => do
      let d ← hexDigit? c
      if n < 0x1000000 then some (n * 16 + d) else none) 0
    return (← charOf? value, false, rest)
  | s => do
    let (value, rest) ← readHexDigits flags.spaced count 0 s
    return (← charOf? value, count == 2, rest)

def takeDigits (spaced : Bool) : Nat → List Char → List Char × List Char
  | fuel + 1, c :: rest =>
    if isAsciiDigit c then
      let (digits, rest) := takeDigits spaced fuel (skipBlank spaced rest)
      (c :: digits, rest)
    else ([], c :: rest)
  | _, s => ([], s)

def readDecimal (spaced : Bool) (s : List Char) : Option (Nat × List Char) :=
  let (digits, rest) := takeDigits spaced s.length (s.dropWhile isBlank)
  (numeral? wordLimit digits).map fun n => (n, rest.dropWhile isBlank)

/-! ## Escapes -/

inductive Atom where
  /-- A character; the flag tells one that was written as a byte. -/
  | char (c : Char) (byte : Bool)
  | set (s : CharSet)
  | look (l : Look)

def isMeta (c : Char) : Bool := "\\.+*?()|[]\x7b\x7d^$#&-~".toList.contains c

def isEscapable (c : Char) : Bool :=
  c.toNat < 128 && !c.isAlphanum && c != '<' && c != '>'

def wordSetFor (flags : Flags) : CharSet := if flags.ascii then asciiWordSet else wordSet

/-- A set closed under case if case is ignored. -/
def foldFor (flags : Flags) (s : CharSet) : CharSet :=
  if !flags.ignoreCase then s else if flags.ascii then .foldAscii s else .fold s

/-- A set that may stand in a pattern: where characters are bytes, only an ASCII one. -/
def checkSet (flags : Flags) (s : CharSet) : Option CharSet :=
  if flags.ascii && s.hasHighByte then none else some s

def readProperty (flags : Flags) (negated : Bool) (s : List Char) :
    Option (CharSet × List Char) := do
  if flags.ascii then none
  let finish (s : CharSet) : CharSet :=
    let s := foldFor flags s
    if negated then .compl s else s
  match skipBlank flags.spaced s with
  | [] => none
  | '\x7b' :: rest =>
    let (name, rest) ← untilBrace flags.spaced (rest.length + 1) rest
    let named := fun (parts : List Char × List Char) =>
      valueSet? (String.ofList parts.1) (String.ofList parts.2)
    let set ← match splitFirst? ['!', '='] name with
      | some parts => (named parts).map .compl
      | none =>
        match splitFirst? [':'] name <|> splitFirst? ['='] name with
        | some parts => named parts
        | none => namedSet? (String.ofList name)
    return (finish set, rest)
  | c :: rest =>
    if c = '\\' then none
    let set ← namedSet? (String.ofList [c])
    return (finish set, rest)

def boundary? (word : CharSet) : String → Option Look
  | "start" => some (.wordStart word)
  | "end" => some (.wordEnd word)
  | "start-half" => some (.wordStartHalf word)
  | "end-half" => some (.wordEndHalf word)
  | _ => none

def isBoundaryChar (c : Char) : Bool := isAsciiLetter c || c == '-'

def readBoundaryName (spaced : Bool) : Nat → List Char → List Char → Option (List Char × List Char)
  | 0, _, _ => none
  | fuel + 1, name, s =>
    match s with
    | [] => none
    | c :: rest =>
      if c = '\x7d' then some (name, rest)
      else if isBoundaryChar c then
        readBoundaryName spaced fuel (name ++ [c]) (skipBlank spaced rest)
      else none

/-- Read what may follow `\b`: a named kind of boundary in braces.  A brace that opens no name is
left for a repetition. -/
def readBoundary (flags : Flags) (s : List Char) : Option (Look × List Char) :=
  let word := wordSetFor flags
  match s with
  | '\x7b' :: rest =>
    match skipBlank flags.spaced rest with
    | [] => none
    | c :: inner =>
      if isBoundaryChar c then do
        let (name, rest) ← readBoundaryName flags.spaced (inner.length + 2) [] (c :: inner)
        return (← boundary? word (String.ofList name), rest)
      else some (.wordBoundary word, s)
  | _ => some (.wordBoundary word, s)

def readEscape (flags : Flags) : List Char → Option (Atom × List Char)
  | [] => none
  | c :: rest =>
    let word := wordSetFor flags
    let set (s : CharSet) (negated : Bool) : Option (Atom × List Char) := do
      let s ← checkSet flags (if negated then .compl s else s)
      return (.set s, rest)
    match c with
    | 'x' => (readHex flags 2 rest).map fun (c, byte, rest) => (.char c byte, rest)
    | 'u' => (readHex flags 4 rest).map fun (c, byte, rest) => (.char c byte, rest)
    | 'U' => (readHex flags 8 rest).map fun (c, byte, rest) => (.char c byte, rest)
    | 'p' => (readProperty flags false rest).map fun (s, rest) => (.set s, rest)
    | 'P' => (readProperty flags true rest).map fun (s, rest) => (.set s, rest)
    | 'd' => set (if flags.ascii then asciiDigitSet else digitSet) false
    | 'D' => set (if flags.ascii then asciiDigitSet else digitSet) true
    | 's' => set (if flags.ascii then asciiSpaceSet else spaceSet) false
    | 'S' => set (if flags.ascii then asciiSpaceSet else spaceSet) true
    | 'w' => set word false
    | 'W' => set word true
    | 'a' => some (.char '\x07' false, rest)
    | 'f' => some (.char '\x0c' false, rest)
    | 't' => some (.char '\t' false, rest)
    | 'n' => some (.char '\n' false, rest)
    | 'r' => some (.char '\r' false, rest)
    | 'v' => some (.char '\x0b' false, rest)
    | 'A' => some (.look .textStart, rest)
    | 'z' => some (.look .textEnd, rest)
    | 'b' => (readBoundary flags rest).map fun (l, rest) => (.look l, rest)
    | 'B' => some (.look (.notWordBoundary word), rest)
    | '<' => some (.look (.wordStart word), rest)
    | '>' => some (.look (.wordEnd word), rest)
    | c => if isMeta c || isEscapable c then some (.char c false, rest) else none

/-! ## Classes -/

inductive SetOp where
  | inter
  | diff
  | symmDiff

def applyOp : SetOp → CharSet → CharSet → CharSet
  | .inter, s, t => .inter s t
  | .diff, s, t => .diff s t
  | .symmDiff, s, t => .symmDiff s t

abbrev NestedSet := CharSet × Nat

def applyWaiting : Option (SetOp × NestedSet) → NestedSet → NestedSet
  | none, t => t
  | some (op, s), t => (applyOp op s.1 t.1, max s.2 t.2 + 1)

/-- The items of a class that stand one behind the other. -/
structure Items where
  set : CharSet := .empty
  count : Nat := 0
  /-- How deeply the deepest of them is nested. -/
  depth : Nat := 0

namespace Items

def add (items : Items) (t : NestedSet) : Items :=
  ⟨.union items.set t.1, items.count + 1, max items.depth t.2⟩

/-- Several items are nested one deeper than each of them. -/
def close (items : Items) : NestedSet :=
  (items.set, if items.count ≤ 1 then items.depth else items.depth + 1)

end Items

/-- The character that an atom of a class stands for, if it may stand in a class of bytes or the
class is one of characters. -/
def atomChar? (flags : Flags) : Atom → Option Char
  | .char c byte => if flags.ascii && !byte && 128 ≤ c.toNat then none else some c
  | _ => none

def atomSet? (flags : Flags) : Atom → Option CharSet
  | .set s => some s
  | .look _ => none
  | a => (atomChar? flags a).map .single

def readClassAtom (flags : Flags) : List Char → Option (Atom × List Char)
  | [] => none
  | '\\' :: rest => readEscape flags rest
  | c :: rest => some (.char c false, rest)

def readRange (flags : Flags) (s : List Char) : Option (CharSet × List Char) := do
  let (first, rest) ← readClassAtom flags s
  let rest := skipBlank flags.spaced rest
  match rest with
  | [] => none
  | '-' :: after =>
    match skipBlank flags.spaced after with
    | [] => none
    | c :: more =>
      if c = ']' ∨ c = '-' then return (← atomSet? flags first, rest)
      else
        let (last, rest) ← readClassAtom flags (c :: more)
        let first ← atomChar? flags first
        let last ← atomChar? flags last
        if first ≤ last then return (.range first last, rest) else none
  | _ => return (← atomSet? flags first, rest)

/-- Read a class such as `[:alpha:]` after its first bracket. -/
def readPosix (flags : Flags) (s : List Char) : Option (CharSet × List Char) := do
  let ':' :: s := s | none
  let (negated, s) := match s with
    | '^' :: s => (true, s)
    | s => (false, s)
  let (name, rest) ← splitFirst? [':'] s
  let ']' :: rest := rest | none
  let set := foldFor flags (← posixSet? (String.ofList name))
  return (if negated then .compl set else set, rest)

def skipHyphens (spaced : Bool) : Nat → List Char → Nat × List Char
  | fuel + 1, '-' :: rest =>
    let (count, rest) := skipHyphens spaced fuel (skipBlank spaced rest)
    (count + 1, rest)
  | _, s => (0, s)

/-- What opens a class after its bracket: whether it is negated, and the hyphens or the bracket that
stand for themselves there. -/
def openClass (flags : Flags) (s : List Char) : Bool × Items × List Char :=
  let skip := skipBlank flags.spaced
  let (negated, s) := match skip s with
    | '^' :: s => (true, skip s)
    | s => (false, s)
  match skipHyphens flags.spaced s.length s with
  | (0, ']' :: s) => (negated, { set := .single ']', count := 1 }, skip s)
  | (0, s) => (negated, {}, s)
  | (count, s) => (negated, { set := .single '-', count }, s)

/-- A class after its closing bracket, one deeper than what stands in it. -/
def closeClass (flags : Flags) (negated : Bool) (t : NestedSet) : Option NestedSet := do
  let set := foldFor flags t.1
  return (← checkSet flags (if negated then .compl set else set), t.2 + 1)

/-- Read a class up to its closing bracket, given the operation that waits for the items read next,
and the items since then. -/
def readClass (flags : Flags) (fuel : Nat) (waiting : Option (SetOp × NestedSet)) (items : Items)
    (s : List Char) : Option (NestedSet × List Char) :=
  match fuel with
  | 0 => none
  | fuel + 1 =>
    let folded : NestedSet := (foldFor flags items.set, items.close.2)
    let operate (op : SetOp) (rest : List Char) : Option (NestedSet × List Char) :=
      readClass flags fuel (some (op, applyWaiting waiting folded)) {} rest
    match skipBlank flags.spaced s with
    | [] => none
    | ']' :: rest => some (applyWaiting waiting (if waiting.isNone then items.close else folded), rest)
    | '[' :: rest =>
      match readPosix flags rest with
      | some (set, rest) => readClass flags fuel waiting (items.add (set, 0)) rest
      | none => do
        let (negated, start, rest) := openClass flags rest
        let (inner, rest) ← readClass flags fuel none start rest
        readClass flags fuel waiting (items.add (← closeClass flags negated inner)) rest
    | '&' :: '&' :: rest => operate .inter rest
    | '-' :: '-' :: rest => operate .diff rest
    | '~' :: '~' :: rest => operate .symmDiff rest
    | s => do
      let (set, rest) ← readRange flags s
      readClass flags fuel waiting (items.add (set, 0)) rest

def readSet (flags : Flags) (s : List Char) : Option (NestedSet × List Char) := do
  let (negated, start, rest) := openClass flags s
  let (inner, rest) ← readClass flags (s.length + 1) none start rest
  return (← closeClass flags negated inner, rest)

/-! ## Groups and flags -/

/-- Set a flag by its letter; the letters that change nothing here are accepted too. -/
def setFlag (flags : Flags) (value : Bool) : Char → Option Flags
  | 'i' => some { flags with ignoreCase := value }
  | 'm' => some { flags with multiLine := value }
  | 's' => some { flags with dotAll := value }
  | 'R' => some { flags with anyLineEnd := value }
  | 'u' => some { flags with ascii := !value }
  | 'x' => some { flags with spaced := value }
  | 'U' => some flags
  | _ => none

/-- Read flags up to the colon or parenthesis that ends them, which is left in the rest.  The signs
read so far are given, since none may be repeated. -/
def readFlags (flags : Flags) (seen : List Char) :
    List Char → Option (Flags × List Char × List Char)
  | [] => none
  | c :: rest =>
    if c = ':' ∨ c = ')' then
      if seen.head? = some '-' then none else some (flags, seen, c :: rest)
    else if seen.contains c then none
    else if c = '-' then readFlags flags (c :: seen) rest
    else do
      let flags ← setFlag flags (!seen.contains '-') c
      readFlags flags (c :: seen) rest

def isNameChar (first : Bool) (c : Char) : Bool :=
  if first then c == '_' || isAlphabetic c
  else c == '_' || c == '.' || c == '[' || c == ']' || isAlphanumeric c

def readName (s : List Char) : Option (String × List Char) := do
  let (name, rest) ← splitFirst? ['>'] s
  let c :: more := name | none
  if isNameChar true c && more.all (isNameChar false) then return (String.ofList name, rest)
  else none

/-! ## Sequences -/

inductive Piece where
  | pattern (p : Pattern) (depth : Nat)
  | flags

def maxDepth : Nat := 250

/-- The parts of a sequence, last one first, as one pattern and its depth. -/
def sequence (pieces : List Piece) : Pattern × Nat :=
  let joined := pieces.foldl (fun (acc : Pattern × Nat) piece =>
    match piece with
    | .pattern p depth => (match acc.1 with
        | .empty => p
        | q => .seq p q, max depth acc.2)
    | .flags => acc) (Pattern.empty, 0)
  if pieces.length ≤ 1 then joined else (joined.1, joined.2 + 1)

def charPattern (flags : Flags) (c : Char) : Pattern := .one (foldFor flags (.single c))

def dotSet? (flags : Flags) : Option CharSet :=
  if flags.ascii then none
  else if flags.dotAll then some .all
  else if flags.anyLineEnd then some (.compl (.union (.single '\r') (.single '\n')))
  else some (.compl (.single '\n'))

def caret (flags : Flags) : Look :=
  if !flags.multiLine then .textStart else if flags.anyLineEnd then .anyLineStart else .lineStart

def dollar (flags : Flags) : Look :=
  if !flags.multiLine then .textEnd else if flags.anyLineEnd then .anyLineEnd else .lineEnd

def readBounds (flags : Flags) (s : List Char) : Option (Nat × Option Nat × List Char) := do
  let skip := skipBlank flags.spaced
  let (least, rest) ← readDecimal flags.spaced (skip s)
  match rest with
  | '\x7d' :: rest => return (least, some least, rest)
  | ',' :: rest =>
    match skip rest with
    | [] => none
    | '\x7d' :: rest => return (least, none, rest)
    | rest =>
      let (most, rest) ← readDecimal flags.spaced rest
      let '\x7d' :: rest := rest | none
      if least ≤ most then return (least, some most, rest) else none
  | _ => none

def dropLazy (s : List Char) : List Char :=
  match s with
  | '?' :: rest => rest
  | s => s

def repeatLast (least : Nat) (most : Option Nat) : List Piece → Option (List Piece)
  | .pattern p depth :: pieces => some (.pattern (.repeated p least most) (depth + 1) :: pieces)
  | _ => none

structure State where
  flags : Flags
  names : List String

/-- What reading a group body gives: its pattern and depth, the state behind it and the rest. -/
abbrev Body := (Pattern × Nat) × State × List Char

/-- The alternatives read so far, with one more. -/
def addBranch : Option (Pattern × Nat) → Pattern × Nat → Pattern × Nat
  | none, b => b
  | some a, b => (.alt a.1 b.1, max a.2 b.2)

/-- The depth of a list of alternatives is one more than that of its branches. -/
def closeBranches (branches : Option (Pattern × Nat)) (last : Pattern × Nat) : Pattern × Nat :=
  match branches with
  | none => last
  | some _ =>
    let all := addBranch branches last
    (all.1, all.2 + 1)

/-- Read alternatives up to the end of the source or the parenthesis that closes the group, which is
left in the rest. -/
def readBody (fuel : Nat) (state : State) (branches : Option (Pattern × Nat))
    (pieces : List Piece) (s : List Char) : Option Body :=
  match fuel with
  | 0 => none
  | fuel + 1 =>
    let flags := state.flags
    let add (p : Pattern) (depth : Nat) (rest : List Char) : Option Body :=
      readBody fuel state branches (.pattern p depth :: pieces) rest
    let again (least : Nat) (most : Option Nat) (rest : List Char) : Option Body := do
      readBody fuel state branches (← repeatLast least most pieces) (dropLazy rest)
    let group (inner : State) (s : List Char) : Option Body := do
      let ((p, depth), inner, rest) ← readBody fuel inner none [] s
      let ')' :: rest := rest | none
      readBody fuel ⟨flags, inner.names⟩ branches (.pattern p (depth + 1) :: pieces) rest
    let named (s : List Char) : Option Body := do
      let (name, rest) ← readName s
      if state.names.contains name then none
      else group ⟨flags, name :: state.names⟩ rest
    match skipBlank flags.spaced s with
    | [] => some (closeBranches branches (sequence pieces), state, [])
    | ')' :: rest => some (closeBranches branches (sequence pieces), state, ')' :: rest)
    | '|' :: rest => readBody fuel state (some (addBranch branches (sequence pieces))) [] rest
    | '[' :: rest => do
      let ((set, depth), rest) ← readSet flags rest
      add (.one set) depth rest
    | '*' :: rest => again 0 none rest
    | '+' :: rest => again 1 none rest
    | '?' :: rest => again 0 (some 1) rest
    | '\x7b' :: rest => do
      let (least, most, rest) ← readBounds flags rest
      again least most (skipBlank flags.spaced rest)
    | '(' :: rest =>
      match skipBlank flags.spaced rest with
      | '?' :: '=' :: _ | '?' :: '!' :: _ | '?' :: '<' :: '=' :: _ | '?' :: '<' :: '!' :: _ => none
      | '?' :: 'P' :: '<' :: rest => named rest
      | '?' :: '<' :: rest => named rest
      | '?' :: rest => do
        let (inner, seen, rest) ← readFlags flags [] rest
        match rest with
        | ':' :: rest => group { state with flags := inner } rest
        | ')' :: rest =>
          if seen.isEmpty then none
          else readBody fuel { state with flags := inner } branches (.flags :: pieces) rest
        | _ => none
      | rest => group state rest
    | '\\' :: rest => do
      let (atom, rest) ← readEscape flags rest
      match atom with
      | .char c byte =>
        if flags.ascii && byte && 128 ≤ c.toNat then none else add (charPattern flags c) 0 rest
      | .set s => add (.one s) 0 rest
      | .look l => add (.look l) 0 rest
    | '.' :: rest => do add (.one (← dotSet? flags)) 0 rest
    | '^' :: rest => add (.look (caret flags)) 0 rest
    | '$' :: rest => add (.look (dollar flags)) 0 rest
    | c :: rest => add (charPattern flags c) 0 rest

end Reader

def read? (source : String) : Option Pattern := do
  let s := source.toList
  let ((p, depth), _, rest) ← Reader.readBody (s.length + 1) ⟨{}, []⟩ none [] s
  if rest.isEmpty && depth ≤ Reader.maxDepth && p.weight ≤ maxWeight then some p else none

end Pattern
end SchemaModels

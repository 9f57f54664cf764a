/-
Patterns and what they match.

A pattern is matched against a text by following all ways at once: `run` takes the places that have
been reached to the places that can be reached next.  A place is the rest of the text together with
the character before it, so two places of one text are the same when their rests are equally long.
Whether a pattern matches anywhere does not depend on which way is tried first, so greedy and lazy
repetition are not told apart.
-/
import SchemaModels.Pattern.NamedSet

namespace SchemaModels
namespace Pattern

/-- A condition on a place that takes up no characters. -/
inductive Look where
  | textStart
  | textEnd
  | lineStart
  | lineEnd
  /-- At the start of a line that a carriage return, a newline or both may end. -/
  | anyLineStart
  | anyLineEnd
  | wordBoundary (word : CharSet)
  | notWordBoundary (word : CharSet)
  | wordStart (word : CharSet)
  | wordEnd (word : CharSet)
  | wordStartHalf (word : CharSet)
  | wordEndHalf (word : CharSet)

end Pattern

inductive Pattern where
  | empty
  | one (s : Pattern.CharSet)
  | look (l : Pattern.Look)
  | seq (p q : Pattern)
  | alt (p q : Pattern)
  /-- At least `least` times, and at most `most` times if that is given. -/
  | repeated (p : Pattern) (least : Nat) (most : Option Nat)

namespace Pattern

/-- A place in a text: the character before it and what follows. -/
structure Place where
  before : Option Char
  rest : List Char
deriving Repr, DecidableEq

namespace Place

/-- The next place, if its character is in the set. -/
def advance (s : CharSet) (place : Place) : Option Place :=
  match place.rest with
  | [] => none
  | c :: rest => if s.mem c then some ⟨some c, rest⟩ else none

def follows (place : Place) (s : CharSet) : Bool := place.before.any s.mem

def precedes (place : Place) (s : CharSet) : Bool := place.rest.head?.any s.mem

def satisfies (place : Place) : Look → Bool
  | .textStart => place.before.isNone
  | .textEnd => place.rest.isEmpty
  | .lineStart => place.before.all (· == '\n')
  | .lineEnd => place.rest.head?.all (· == '\n')
  | .anyLineStart => place.before.all fun c =>
    c == '\n' || (c == '\r' && place.rest.head? != some '\n')
  | .anyLineEnd => place.rest.head?.all fun c =>
    c == '\r' || (c == '\n' && place.before != some '\r')
  | .wordBoundary w => place.follows w != place.precedes w
  | .notWordBoundary w => place.follows w == place.precedes w
  | .wordStart w => !place.follows w && place.precedes w
  | .wordEnd w => place.follows w && !place.precedes w
  | .wordStartHalf w => !place.follows w
  | .wordEndHalf w => !place.precedes w

def fromOn (before : Option Char) : List Char → List Place
  | [] => [⟨before, []⟩]
  | c :: rest => ⟨before, c :: rest⟩ :: fromOn (some c) rest

def same (p q : Place) : Bool := p.rest.length == q.rest.length

def add (places : List Place) (p : Place) : List Place :=
  if places.any p.same then places else places ++ [p]

def merge (places further : List Place) : List Place := further.foldl add places

end Place

def times (step : List Place → List Place) : Nat → List Place → List Place
  | 0, places => places
  | n + 1, places => times step n (step places)

def upTo (step : List Place → List Place) : Nat → List Place → List Place
  | 0, places => places
  | n + 1, places => upTo step n (Place.merge places (step places))

def furthest (places : List Place) : Nat :=
  places.foldl (fun n p => max n p.rest.length) 0

/-- The places that a pattern leads to.  A step that is repeated without limit reaches nothing new
after it has been taken once for every place of the text. -/
def run : Pattern → List Place → List Place
  | empty, places => places
  | one s, places => places.filterMap (Place.advance s)
  | look l, places => places.filter fun p => p.satisfies l
  | seq p q, places => run q (run p places)
  | alt p q, places => Place.merge (run p places) (run q places)
  | repeated p least most, places =>
    let first := times (run p) least places
    upTo (run p) (match most with
      | some most => min (most - least) (furthest first + 1)
      | none => furthest first + 1) first

def isMatch (p : Pattern) (text : String) : Bool :=
  !(p.run (Place.fromOn none text.toList)).isEmpty

/-- The size of a pattern when its repetitions are written out. -/
def weight : Pattern → Nat
  | empty => 1
  | one s => s.spanCount
  | look _ => 1
  | seq p q => p.weight + q.weight
  | alt p q => p.weight + q.weight + 1
  | repeated p least most => p.weight * max 1 (most.getD (least + 1)) + 1

def maxWeight : Nat := 175000

end Pattern
end SchemaModels

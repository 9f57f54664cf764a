/-
Sets of characters, as patterns describe them.

A set is kept in the form in which it is written, so that closing it under case, which `fold` does,
and complementing it stay separate steps: in a pattern that ignores case the first comes before the
second.
-/
import SchemaModels.Text.Case

namespace SchemaModels
namespace Pattern

open Text

inductive CharSet where
  | empty
  | range (first last : Char)
  | runs (runs : List CodeRun)
  | union (s t : CharSet)
  | inter (s t : CharSet)
  | diff (s t : CharSet)
  | symmDiff (s t : CharSet)
  | compl (s : CharSet)
  /-- With each member, all that differ from it in case only. -/
  | fold (s : CharSet)
  /-- With each ASCII letter, the letter in the other case. -/
  | foldAscii (s : CharSet)

def caseOrbit (c : Char) : List Char :=
  let first := foldCase c
  first :: foldShifts.filterMap fun s =>
    let n := Int.toNat (first.toNat - s.distance)
    if s.run.contains n then some (Char.ofNat n) else none

namespace CharSet

def mem : CharSet → Char → Bool
  | empty, _ => false
  | range first last, c => first ≤ c && c ≤ last
  | runs table, c => inRuns table c
  | union s t, c => s.mem c || t.mem c
  | inter s t, c => s.mem c && t.mem c
  | diff s t, c => s.mem c && !t.mem c
  | symmDiff s t, c => s.mem c != t.mem c
  | compl s, c => !s.mem c
  | fold s, c => (caseOrbit c).any s.mem
  | foldAscii s, c => s.mem c || s.mem (if c.isUpper then c.toLower else c.toUpper)

def single (c : Char) : CharSet := .range c c

def unionAll (sets : List CharSet) : CharSet := sets.foldl .union .empty

def all : CharSet := .compl .empty

def hasHighByte (s : CharSet) : Bool :=
  (List.range 128).any fun n => s.mem (Char.ofNat (n + 128))

def spanCount : CharSet → Nat
  | empty => 1
  | range _ _ => 1
  | runs table => (table.map fun
      | .span _ _ => 1
      | .alternate first last => (last - first) / 2 + 1).sum
  | union s t | inter s t | diff s t | symmDiff s t => s.spanCount + t.spanCount
  | compl s | fold s | foldAscii s => s.spanCount

end CharSet

end Pattern
end SchemaModels

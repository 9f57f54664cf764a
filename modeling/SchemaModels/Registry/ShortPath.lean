/-
The shortest path that still tells a class apart.

Fiscal schemas use the same short names over and over, so a class is called by its own name and as
few of its ancestors as possible.  A shortened path must not be obtainable from the path of another
class with the same last name; segments are dropped one at a time, the innermost first, as long as
that holds.
-/

namespace SchemaModels
namespace ShortPath

/-- Whether `short` comes from `long` by dropping segments other than the last one. -/
def isAnchored (short long : List String) : Bool :=
  match short.getLast?, long.getLast? with
  | some a, some b => a == b && short.dropLast.isSublist long.dropLast
  | _, _ => false

def collides (others : List (List String)) (path : List String) : Bool :=
  others.any (isAnchored path)

/-- The path without its segment `i`, for the greatest `i` below `bound` for which that collides
with no other path. -/
def dropOne? (others : List (List String)) (path : List String) : Nat → Option (List String)
  | 0 => none
  | bound + 1 =>
    let candidate := path.eraseIdx bound
    if collides others candidate then dropOne? others path bound else some candidate

/-- Shorten a path while a segment before the last can be dropped. -/
def shorten (others : List (List String)) (path : List String) : List String :=
  match dropOne? others path (path.length - 1) with
  | none => path
  | some shorter => if shorter.length < path.length then shorten others shorter else path
termination_by path.length

end ShortPath
end SchemaModels

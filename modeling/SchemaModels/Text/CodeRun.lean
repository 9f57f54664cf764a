/-
Runs of code points, the form in which character properties are tabulated.
-/

namespace SchemaModels
namespace Text

/-- A set of code points between two ends: all of them, or every second one. -/
inductive CodeRun where
  | span (first last : Nat)
  | alternate (first last : Nat)
deriving Repr, DecidableEq

namespace CodeRun

/-- The ends belong to the run; an alternate run skips the code points at odd distance. -/
def contains : CodeRun → Nat → Bool
  | .span first last, n => first ≤ n && n ≤ last
  | .alternate first last, n => first ≤ n && n ≤ last && (n - first) % 2 == 0

end CodeRun

def inRuns (runs : List CodeRun) (c : Char) : Bool :=
  runs.any fun run => run.contains c.toNat

end Text
end SchemaModels

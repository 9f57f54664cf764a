/-
Lists in which, of several items with one key, the first one is kept.
-/

namespace SchemaModels
namespace FirstMet

variable {α κ : Type} [DecidableEq κ]

/-- The items whose key is neither one of those given nor that of an item before. -/
def unmet (key : α → κ) (seen : List κ) : List α → List α
  | [] => []
  | a :: rest =>
    if seen.contains (key a) then unmet key seen rest else a :: unmet key (key a :: seen) rest

end FirstMet
end SchemaModels

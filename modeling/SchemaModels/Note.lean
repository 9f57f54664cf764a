/-
Notes: what is said about a run besides its result.
-/

namespace SchemaModels

inductive NoteLevel where
  | warn
  | info
  | debug
deriving Repr, DecidableEq

namespace NoteLevel

def word : NoteLevel → String
  | warn => "warn"
  | info => "info"
  | debug => "debug"

/-- The place of a level, from what matters most. -/
def rank : NoteLevel → Nat
  | warn => 0
  | info => 1
  | debug => 2

end NoteLevel

structure Note where
  level : NoteLevel
  text : String
deriving Repr, DecidableEq

namespace Note

def line (n : Note) : String := n.level.word ++ " " ++ n.text

def upTo (level : NoteLevel) (notes : List Note) : List Note :=
  notes.filter fun n => n.level.rank ≤ level.rank

end Note

end SchemaModels

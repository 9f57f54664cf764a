/-
Sessions: what a program asks of the system, one request after the other.

A session says what to do next for every answer it may get, and nothing else, so it can be carried
out by the system itself or on a tree of files.  `Session.run` does the latter and keeps a record of
what is said.
-/
import SchemaModels.Files

namespace SchemaModels

inductive Channel where
  | output
  | report
deriving Repr, DecidableEq

structure FormatJob where
  command : String
  dir : String
  paths : List String
deriving Repr, DecidableEq

inductive FormatOutcome where
  | formatted
  /-- The command ended badly, with what it printed. -/
  | failed (status printed : String)
  /-- The command could not be started. -/
  | unavailable (fault : FileFault)
deriving Repr, DecidableEq

inductive Session (α : Type) where
  | done (result : α)
  | say (channel : Channel) (text : String) (next : Session α)
  | read (path : String) (next : Except FileFault String → Session α)
  | write (path text : String) (next : Except FileFault Unit → Session α)
  | makeDirs (path : String) (next : Except FileFault Unit → Session α)
  | format (job : FormatJob) (next : FormatOutcome → Session α)

/-! ## One session after the other -/

namespace Session

def bind {α β : Type} : Session α → (α → Session β) → Session β
  | done a, f => f a
  | say channel text next, f => say channel text (next.bind f)
  | read path next, f => read path fun answer => (next answer).bind f
  | write path text next, f => write path text fun answer => (next answer).bind f
  | makeDirs path next, f => makeDirs path fun answer => (next answer).bind f
  | format job next, f => format job fun answer => (next answer).bind f

instance : Monad Session where
  pure := done
  bind := bind

end Session

/-! ## Formatters -/

/-- What becomes of a format job.  Only two commands are known, one that is content with everything
and one that is not; a command needs a directory to run in. -/
def FormatJob.outcome (job : FormatJob) : FormatOutcome :=
  if job.dir.isEmpty then .unavailable .missing
  else if job.command = "true" then .formatted
  else if job.command = "false" then .failed "exit status: 1" ""
  else .unavailable .missing

/-! ## Records -/

structure Record where
  tree : FileTree
  output : String := ""
  report : String := ""
deriving Repr, DecidableEq

namespace Record

def say (r : Record) : Channel → String → Record
  | .output, text => { r with output := r.output ++ text }
  | .report, text => { r with report := r.report ++ text }

def change (r : Record) : Except FileFault FileTree → Except FileFault Unit × Record
  | .ok tree => (.ok (), { r with tree := tree })
  | .error fault => (.error fault, r)

end Record

/-- The result of a session on the files of a record, and the record after it. -/
def Session.run {α : Type} : Session α → Record → α × Record
  | done a, r => (a, r)
  | say channel text next, r => next.run (r.say channel text)
  | read path next, r => (next (r.tree.read path)).run r
  | write path text next, r =>
    (next (r.change (r.tree.write path text)).1).run (r.change (r.tree.write path text)).2
  | makeDirs path next, r =>
    (next (r.change (r.tree.makeDirs path)).1).run (r.change (r.tree.makeDirs path)).2
  | format job next, r => (next job.outcome).run r

end SchemaModels

/-
The program: carries out the session of its command line in the directory where it is started.
-/
import SchemaModels.Command.Steps

open SchemaModels

def faultOf : IO.Error → FileFault
  | .noFileOrDirectory _ _ _ => .missing
  | .alreadyExists _ _ _ => .present
  | .inappropriateType _ 21 _ => .isDirectory
  | .inappropriateType _ _ _ => .notDirectory
  | e => .system (toString e)

def answer {α : Type} (request : IO α) : IO (Except FileFault α) := do
  match ← request.toBaseIO with
  | .ok a => return .ok a
  | .error e => return .error (faultOf e)

def perform {α : Type} : Session α → IO α
  | .done a => return a
  | .say .output text next => do
    (← IO.getStdout).putStr text
    perform next
  | .say .report text next => do
    (← IO.getStderr).putStr text
    perform next
  | .read path next => do perform (next (← answer (IO.FS.readFile path)))
  | .write path text next => do perform (next (← answer (IO.FS.writeFile path text)))
  | .makeDirs path next => do
    if path.isEmpty then perform (next (.ok ()))
    else perform (next (← answer (IO.FS.createDirAll path)))
  | .format job next => perform (next job.outcome)

def main (args : List String) : IO UInt32 := do
  return (← perform (Command.sessionOf args)).toUInt32

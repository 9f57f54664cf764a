/-
Following steps one at a time.

A session that goes on with another one runs that on what has come of the first, so the result of
several steps is found from the results of each (`Steps.runOn_bind`).  Reading leaves the record as it
is, and what fails ends the steps with its failure.
-/
import SchemaModels.Command.Steps

namespace SchemaModels

theorem Session.run_bind {α β : Type} (s : Session α) (f : α → Session β) (r : Record) :
    (s.bind f).run r = (f (s.run r).1).run (s.run r).2 := by
  induction s generalizing r with
  | done a => rfl
  | say channel text next ih => exact ih _
  | read path next ih => exact ih _ _
  | write path text next ih => exact ih _ _
  | makeDirs path next ih => exact ih _ _
  | format job next ih => exact ih _ _

theorem Record.tree_say (r : Record) (channel : Channel) (text : String) :
    (r.say channel text).tree = r.tree := by
  cases channel <;> rfl

namespace Steps

variable {α β : Type} {r r' : Record}

def runOn (s : Steps α) (r : Record) : Except Failure α × Record := Session.run (ExceptT.run s) r

/-! ## One step after the other -/

theorem runOn_pure (a : α) (r : Record) : (pure a : Steps α).runOn r = (.ok a, r) := rfl

theorem runOn_bind (s : Steps α) (next : α → Steps β) (r : Record) :
    (s >>= next).runOn r =
      match s.runOn r with
      | (.ok a, r') => (next a).runOn r'
      | (.error f, r') => (.error f, r') := by
  refine (Session.run_bind (ExceptT.run s) (ExceptT.bindCont next) r).trans ?_
  rw [runOn]
  cases Session.run (ExceptT.run s) r with
  | mk result r' =>
    cases result with
    | ok a => rfl
    | error f => rfl

theorem runOn_bind_ok {s : Steps α} {a : α} (h : s.runOn r = (.ok a, r')) (next : α → Steps β) :
    (s >>= next).runOn r = (next a).runOn r' := by
  rw [runOn_bind, h]

/-! ## Single steps -/

theorem runOn_read (path : String) (r : Record) :
    (read path).runOn r = (.ok (r.tree.read path), r) := rfl

theorem runOn_reportLine (s : String) (r : Record) :
    (reportLine s).runOn r = (.ok (), r.say .report (s ++ "\n")) := rfl

theorem runOn_orReject (x : Except ConfigError α) (r : Record) :
    (orReject x).runOn r = (x.mapError fun e => ⟨configMessage e, none⟩, r) := by
  cases x with
  | ok a => rfl
  | error e => rfl

theorem runOn_orFail (message : String) (x : Except FileFault α) (r : Record) :
    (orFail message x).runOn r = (x.mapError fun fault => ⟨message, some fault.message⟩, r) := by
  cases x with
  | ok a => rfl
  | error fault => rfl

end Steps
end SchemaModels

/-
Reading a document into values with types.

Readers go through lists and records in the order of the text and stop at the first thing that is
wrong.  Most of what can be wrong is that the text is not of the expected form, which is not
described further; a fault is given only where the form is right and the contents are not.
-/
import SchemaModels.Document.Node
import SchemaModels.Error

namespace SchemaModels

/-- Reading a document; the state counts how often aliases may still be followed. -/
abbrev Reading := ReaderT Document (StateT Nat (Except (Option BundleFault)))

namespace Reading

/-! ## Failing -/

def unfit {α : Type} : Reading α := throw none

def fault {α : Type} (f : BundleFault) : Reading α := throw (some f)

def required {α : Type} : Option α → Reading α
  | some a => pure a
  | none => unfit

/-! ## Scalars -/

/-- The value that is meant: an alias leads to another one. -/
def resolve : Node → Reading Node
  | .reference id => do
    match ← get with
    | 0 => unfit
    | n + 1 =>
      set n
      required ((← read).anchors.lookup id)
  | node => pure node

def scalar {α : Type} (as : Scalar → Option α) (node : Node) : Reading α := do
  match ← resolve node with
  | .scalar s => required (as s)
  | _ => unfit

def text : Node → Reading String := scalar Scalar.text

def bool : Node → Reading Bool := scalar Scalar.bool

def natural (limit : Nat) : Node → Reading Nat :=
  scalar fun s => s.natural.filter (· < limit)

def loose : Node → Reading LooseValue := scalar fun s => some s.loose

def optional {α : Type} (reader : Node → Reading α) (node : Node) : Reading (Option α) := do
  match ← resolve node with
  | .scalar s => if ← required s.absent then return none else return some (← reader (.scalar s))
  | node => return some (← reader node)

def choice {α : Type} (alternatives : List (String × α)) (node : Node) : Reading α := do
  match ← resolve node with
  | .scalar s => required (s.choice.bind fun name => alternatives.lookup name)
  | .record [(key, .scalar s)] =>
    if (← read).choiceRecords && s.absent == some true then
      required (alternatives.lookup (← text key))
    else unfit
  | _ => unfit

/-! ## Lists and records -/

def pass (node : Node) : Reading Unit := if node.isBroken then unfit else pure ()

/-- A list, if there is room for one. -/
def list {α : Type} (room : Nat) (item : Node → Reading α) (node : Node) : Reading (List α) := do
  match ← resolve node with
  | .list items => if room = 0 then unfit else items.mapM item
  | .scalar s => if s.blank then return [] else unfit
  | _ => unfit

/-- A record, if there is room for one: its entries are taken in order. -/
def record {σ : Type} (room : Nat) (entry : σ → String → Node → Reading σ) (start : σ)
    (node : Node) : Reading σ := do
  match ← resolve node with
  | .record entries =>
    if room = 0 then unfit
    else entries.foldlM (fun s (key, value) => do entry s (← text key) value) start
  | .scalar s => if s.blank then return start else unfit
  | _ => unfit

/-- A value that may be given once. -/
def once {α : Type} (known : Option α) (reader : Reading α) : Reading (Option α) := do
  match known with
  | some _ => unfit
  | none => return some (← reader)

end Reading

namespace Document

def decode {α : Type} (reader : Nat → Node → Reading α) (doc : Document) :
    Except (Option BundleFault) α :=
  match ((reader doc.depth doc.root).run doc).run doc.jumps with
  | .error e => .error e
  | .ok (a, _) => if doc.sound then .ok a else .error none

end Document

end SchemaModels

/-
Things nested in each other, listed with a stack.

The things that are still to be listed wait on a stack.  The thing on top is listed, and the things
nested in it are pushed, the last one first, so that the first one is next.  Where things have keys,
one whose key was met before is dropped with all that is nested in it.
-/

namespace SchemaModels

/-! ## Weights -/

def total {α : Type} (weight : α → Nat) (items : List α) : Nat :=
  items.foldr (fun a rest => weight a + rest) 0

theorem total_cons {α : Type} (weight : α → Nat) (a : α) (rest : List α) :
    total weight (a :: rest) = weight a + total weight rest := rfl

theorem total_append {α : Type} (weight : α → Nat) (items more : List α) :
    total weight (items ++ more) = total weight items + total weight more := by
  induction items with
  | nil => exact (Nat.zero_add _).symm
  | cons a rest ih => rw [List.cons_append, total_cons, total_cons, ih, Nat.add_assoc]

theorem total_map {α β : Type} (weight : β → Nat) (h : α → β) (items : List α) :
    total weight (items.map h) = total (fun a => weight (h a)) items := List.foldr_map

theorem total_filter_le {α : Type} (weight : α → Nat) (p : α → Bool) (items : List α) :
    total weight (items.filter p) ≤ total weight items := by
  induction items with
  | nil => exact Nat.le_refl 0
  | cons a rest ih =>
    rw [List.filter_cons]
    split <;> simp only [total_cons] <;> omega

theorem weight_le_total {α : Type} (weight : α → Nat) {items : List α} {a : α} (h : a ∈ items) :
    weight a ≤ total weight items := by
  obtain ⟨before, after, rfl⟩ := List.append_of_mem h
  rw [total_append, total_cons]
  omega

/-! ## Listing -/

/-- Things with the things nested directly in them.  A thing weighs more than these do together, so
no thing is nested in itself at any depth. -/
structure Nesting (α : Type) where
  inner : α → List α
  weight : α → Nat
  lighter : ∀ a, total weight (inner a) < weight a

def pushAll {α : Type} (items stack : List α) : List α := items.foldr List.cons stack

theorem pushAll_eq_append {α : Type} (items stack : List α) :
    pushAll items stack = items ++ stack := by
  simp [pushAll]

namespace Nesting

variable {α κ : Type}

def walkFrom (n : Nesting α) (stack : List α) : List α :=
  match stack with
  | [] => []
  | a :: rest => a :: n.walkFrom (pushAll (n.inner a) rest)
termination_by total n.weight stack
decreasing_by
  have := n.lighter a
  rw [pushAll_eq_append, total_append, total_cons]
  omega

/-- List things with all that is nested in them. -/
def walk (n : Nesting α) (items : List α) : List α := n.walkFrom (pushAll items [])

variable [DecidableEq κ]

/-- List the things on a stack with all that is nested in them, each key once, given the keys that
were met before. -/
def visitFrom (n : Nesting α) (key : α → κ) (seen : List κ) (stack : List α) : List α :=
  match stack with
  | [] => []
  | a :: rest =>
    if seen.contains (key a) then n.visitFrom key seen rest
    else a :: n.visitFrom key (key a :: seen) (pushAll (n.inner a) rest)
termination_by total n.weight stack
decreasing_by
  · have := n.lighter a
    rw [total_cons]
    omega
  · have := n.lighter a
    rw [pushAll_eq_append, total_append, total_cons]
    omega

def visit (n : Nesting α) (key : α → κ) (roots : List α) : List α :=
  n.visitFrom key [] (pushAll roots [])

end Nesting

end SchemaModels

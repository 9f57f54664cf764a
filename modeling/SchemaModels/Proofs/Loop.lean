/-
Loops that come to an end.

A loop is given as its step, which knows no bound: the state after one more pass, or nothing where
the loop stops.  `StateTransition.eval` repeats a step until it stops and has no value where it
never does.

Of what a program does by loops it is said when it ends and what it ends with (`endsIf`).  One thing
done after the other ends if both do, and a thing done for each item of a list if each of them does.
-/
import Mathlib.Computability.StateTransition

namespace SchemaModels

open StateTransition

variable {σ : Type} {step : σ → Option σ}

/-- A loop whose passes make its state smaller ends in the state that a function gives, if the
function undoes passes and leaves final states alone. -/
theorem eval_eq_some {final : σ → σ} (size : σ → Nat)
    (hstop : ∀ s, step s = none → final s = s)
    (hpass : ∀ s t, step s = some t → size t < size s ∧ final s = final t) (s : σ) :
    eval step s = Part.some (final s) := by
  induction hs : size s using Nat.strongRecOn generalizing s with
  | ind n ih =>
    subst hs
    cases hstep : step s with
    | none =>
      rw [hstop s hstep, Part.eq_some_iff, mem_eval]
      exact ⟨Relation.ReflTransGen.refl, hstep⟩
    | some t =>
      obtain ⟨hsmaller, hfinal⟩ := hpass s t hstep
      have hreaches : Reaches step s t := Relation.ReflTransGen.single hstep
      rw [reaches_eval hreaches, ih (size t) hsmaller t rfl, hfinal]

/-- A loop ends in a state that is reached by passes and has no further one. -/
theorem reaches_of_eval {s t : σ} (h : eval step s = Part.some t) :
    Reaches step s t ∧ step t = none :=
  mem_eval.mp (Part.eq_some_iff.mp h)

/-- A loop ends where it starts if there is no pass. -/
theorem eval_of_stopped {s : σ} (h : step s = none) : eval step s = Part.some s :=
  Part.eq_some_iff.mpr (mem_eval.mpr ⟨Relation.ReflTransGen.refl, h⟩)

/-- A loop that passes through one state after the other ends in the first one where it stops. -/
theorem eval_of_passes (state : Nat → σ) {k : Nat}
    (hpass : ∀ j < k, step (state j) = some (state (j + 1))) (hstop : step (state k) = none) :
    eval step (state 0) = Part.some (state k) := by
  have hreaches : Reaches step (state 0) (state k) := by
    clear hstop
    induction k with
    | zero => exact Relation.ReflTransGen.refl
    | succ k ih =>
      have hk := ih fun j hj => hpass j (Nat.lt_succ_of_lt hj)
      exact hk.tail (hpass k (Nat.lt_succ_self k))
  exact Part.eq_some_iff.mpr (mem_eval.mpr ⟨hreaches, hstop⟩)

/-- A loop that has a pass in every state does not end. -/
theorem eval_eq_none (h : ∀ s, step s ≠ none) (s : σ) : eval step s = Part.none :=
  Part.eq_none_iff.mpr fun t ht => h t (mem_eval.mp ht).2

/-! ## What ends under a condition -/

/-- What ends just if `p` holds, and then with `a`. -/
def endsIf {α : Type} (p : Prop) (a : α) : Part α := ⟨p, fun _ => a⟩

section

variable {α β : Type} {p q : Prop} {a : α} {b : β}

theorem endsIf_of (h : p) (a : α) : endsIf p a = Part.some a :=
  Part.ext' (iff_of_true h trivial) fun _ _ => rfl

theorem endsIf_of_not (h : ¬ p) (a : α) : endsIf p a = Part.none :=
  Part.ext' (iff_of_false h id) fun hp => absurd hp h

theorem eq_of_endsIf_eq_some {c : α} (h : endsIf p a = Part.some c) : a = c := by
  have hc : c ∈ endsIf p a := Part.eq_some_iff.mp h
  exact hc.2

theorem pure_eq_endsIf (a : α) : (pure a : Part α) = endsIf True a :=
  (endsIf_of trivial a).symm

theorem endsIf_congr (h : p ↔ q) (a : α) : endsIf p a = endsIf q a :=
  Part.ext' h fun _ _ => rfl

theorem endsIf_bind {f : α → Part β} (h : f a = endsIf q b) :
    (endsIf p a >>= f) = endsIf (p ∧ q) b := by
  by_cases hp : p
  · rw [endsIf_of hp, Part.bind_eq_bind, Part.bind_some, h]
    exact endsIf_congr (and_iff_right hp).symm b
  · rw [endsIf_of_not hp, endsIf_of_not fun hpq => hp hpq.1]
    exact Part.bind_none f

theorem endsIf_bind_pure (f : α → β) :
    (endsIf p a >>= fun a => pure (f a)) = endsIf p (f a) :=
  (endsIf_bind (f := fun a => pure (f a)) (pure_eq_endsIf (f a))).trans
    (endsIf_congr (iff_of_eq (and_true p)) (f a))

theorem mapM_endsIf {f : α → Part β} {ends : α → Prop} {result : α → β} {items : List α}
    (h : ∀ a ∈ items, f a = endsIf (ends a) (result a)) :
    items.mapM f = endsIf (∀ a ∈ items, ends a) (items.map result) := by
  induction items with
  | nil => exact (endsIf_of (fun _ hnil => absurd hnil List.not_mem_nil) []).symm
  | cons a rest ih =>
    obtain ⟨ha, hrest⟩ := List.forall_mem_cons.mp h
    have hothers : (rest.mapM f >>= fun others => pure (result a :: others)) =
        endsIf (∀ c ∈ rest, ends c) (result a :: rest.map result) := by
      rw [ih hrest]
      exact endsIf_bind_pure _
    rw [List.mapM_cons, ha]
    exact (endsIf_bind hothers).trans (endsIf_congr List.forall_mem_cons.symm _)

end

end SchemaModels

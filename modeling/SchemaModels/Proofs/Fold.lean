/-
Folds that gather what each item adds.

If one step makes a fact true just where the item asks for it, and keeps it where it was true, then
after a whole fold the fact holds if it held at first or if some item asked for it.  The registry,
the keys of lists and the import lines are all gathered by such folds.  Where an item that was
gathered before adds nothing, it makes no difference how often it is met.
-/
import Mathlib.Data.List.Induction

namespace SchemaModels

theorem foldl_iff {α β : Type} {f : β → α → β} {P : β → Prop} {Q : α → Prop}
    (hstep : ∀ b a, P (f b a) ↔ P b ∨ Q a) (items : List α) (b : β) :
    P (items.foldl f b) ↔ P b ∨ ∃ a ∈ items, Q a := by
  induction items generalizing b with
  | nil => simp
  | cons a items ih =>
    rw [List.foldl_cons, ih, hstep, or_assoc]
    simp only [List.mem_cons, exists_eq_or_imp]

theorem foldl_eraseDups {α β : Type} [DecidableEq α] {f : β → α → β} {Has : β → α → Prop}
    (hstep : ∀ b a other, Has (f b a) other ↔ Has b other ∨ a = other)
    (hskip : ∀ b a, Has b a → f b a = b) (items : List α) (b : β) :
    items.eraseDups.foldl f b = items.foldl f b := by
  induction items using List.reverseRecOn with
  | nil => rfl
  | append_singleton items last ih =>
    rw [List.eraseDups_append, List.foldl_append, ih, List.foldl_append]
    by_cases hmem : last ∈ items
    · have hhas : Has (items.foldl f b) last :=
        (foldl_iff (f := f) (P := fun b => Has b last) (Q := fun a => a = last)
          (fun b a => hstep b a last) items b).mpr (Or.inr ⟨last, hmem, rfl⟩)
      have hnone : [last].removeAll items = [] := by simp [List.removeAll, hmem]
      rw [hnone, List.foldl_cons, List.foldl_nil, hskip _ _ hhas]
      rfl
    · have hsome : [last].removeAll items = [last] := by simp [List.removeAll, hmem]
      rw [hsome]
      rfl

end SchemaModels

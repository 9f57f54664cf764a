/-
The stack lists nested things in pre-order.

`preOrder` is the recursive listing: a thing, and then the listings of the things in it one after
the other.  The loop over the stack drops a thing with all that is in it, so it agrees with the
recursive listing only if nothing in it would still have been listed.  That is so where no two
things have one key: then a thing that is met again was listed with all that is in it, because that
stood above everything else on the stack.  `visit_eq` is the outcome, and `mem_of_mem_visit` is what
holds of any keys.  The loop without keys drops nothing and always lists the same as the recursion.
-/
import Mathlib.Logic.Relation
import SchemaModels.Nesting
import SchemaModels.Proofs.FirstMet

namespace SchemaModels
namespace Nesting

open FirstMet

variable {α κ : Type} {n : Nesting α} {key : α → κ}

theorem weight_lt_of_mem_inner {a b : α} (h : b ∈ n.inner a) : n.weight b < n.weight a :=
  Nat.lt_of_le_of_lt (weight_le_total n.weight h) (n.lighter a)

/-- A thing and all that is nested in it, in pre-order. -/
def preOrder (n : Nesting α) (a : α) : List α :=
  a :: (n.inner a).attach.flatMap fun ⟨b, _⟩ => n.preOrder b
termination_by n.weight a
decreasing_by exact weight_lt_of_mem_inner (by assumption)

theorem preOrder_eq (n : Nesting α) (a : α) :
    n.preOrder a = a :: (n.inner a).flatMap n.preOrder := by
  rw [preOrder]
  simp

/-- Things with all that is nested in them, one after the other. -/
def listing (n : Nesting α) (items : List α) : List α := items.flatMap n.preOrder

theorem listing_cons (a : α) (rest : List α) :
    n.listing (a :: rest) = a :: (n.listing (n.inner a) ++ n.listing rest) := by
  rw [listing, List.flatMap_cons, preOrder_eq]
  rfl

theorem listing_append (items more : List α) :
    n.listing (items ++ more) = n.listing items ++ n.listing more := List.flatMap_append

theorem mem_preOrder_iff {a b : α} : b ∈ n.preOrder a ↔ b = a ∨ b ∈ n.listing (n.inner a) := by
  rw [preOrder_eq, List.mem_cons, listing]

theorem self_mem_preOrder (a : α) : a ∈ n.preOrder a := mem_preOrder_iff.mpr (Or.inl rfl)

theorem mem_listing_iff {items : List α} {b : α} :
    b ∈ n.listing items ↔ ∃ a ∈ items, b ∈ n.preOrder a := List.mem_flatMap

/-- What is in a thing that is in another is in that as well, and weighs no more. -/
theorem preOrder_subset {a b : α} (hb : b ∈ n.preOrder a) :
    n.preOrder b ⊆ n.preOrder a ∧ n.weight b ≤ n.weight a := by
  induction hw : n.weight a using Nat.strongRecOn generalizing a with
  | ind w ih =>
    subst hw
    rcases mem_preOrder_iff.mp hb with rfl | hinner
    · exact ⟨fun _ hc => hc, Nat.le_refl _⟩
    · obtain ⟨d, hd, hbd⟩ := mem_listing_iff.mp hinner
      have hlt := weight_lt_of_mem_inner hd
      obtain ⟨hsub, hle⟩ := ih _ hlt hbd rfl
      refine ⟨fun c hc => ?_, Nat.le_trans hle (Nat.le_of_lt hlt)⟩
      exact mem_preOrder_iff.mpr (Or.inr (mem_listing_iff.mpr ⟨d, hd, hsub hc⟩))

theorem not_mem_listing_inner (a : α) : a ∉ n.listing (n.inner a) := by
  intro h
  obtain ⟨d, hd, had⟩ := mem_listing_iff.mp h
  exact Nat.lt_irrefl _ (Nat.lt_of_le_of_lt (preOrder_subset had).2 (weight_lt_of_mem_inner hd))

theorem mem_listing_of_mem_inner {items : List α} {b c : α} (hb : b ∈ n.listing items)
    (hc : c ∈ n.inner b) : c ∈ n.listing items := by
  obtain ⟨a, ha, hba⟩ := mem_listing_iff.mp hb
  have hcb : c ∈ n.preOrder b :=
    mem_preOrder_iff.mpr (Or.inr (mem_listing_iff.mpr ⟨c, hc, self_mem_preOrder c⟩))
  exact mem_listing_iff.mpr ⟨a, ha, (preOrder_subset hba).1 hcb⟩

/-- What survives one step inwards holds of all that is in a thing. -/
theorem preOrder_induction {P : α → Prop} (step : ∀ a, P a → ∀ b ∈ n.inner a, P b) {a : α}
    (h : P a) : ∀ b ∈ n.preOrder a, P b := by
  induction hw : n.weight a using Nat.strongRecOn generalizing a with
  | ind w ih =>
    subst hw
    intro b hb
    rcases mem_preOrder_iff.mp hb with rfl | hinner
    · exact h
    · obtain ⟨d, hd, hbd⟩ := mem_listing_iff.mp hinner
      exact ih _ (weight_lt_of_mem_inner hd) (step a h d hd) rfl b hbd

/-- A thing is in another just if steps inwards lead to it from there. -/
theorem mem_preOrder_iff_reflTransGen {a b : α} :
    b ∈ n.preOrder a ↔ Relation.ReflTransGen (fun x y => y ∈ n.inner x) a b := by
  constructor
  · exact preOrder_induction (fun x hx y hy => hx.tail hy) Relation.ReflTransGen.refl b
  · intro h
    induction h with
    | refl => exact self_mem_preOrder a
    | tail _ hlink ih =>
      have hself : ∀ x, n.listing [x] = n.preOrder x := fun x => List.append_nil _
      rw [← hself] at ih ⊢
      exact mem_listing_of_mem_inner ih hlink

/-! ## Without keys -/

theorem walkFrom_eq_listing (stack : List α) : n.walkFrom stack = n.listing stack := by
  induction stack using walkFrom.induct n with
  | case1 =>
    rw [walkFrom]
    rfl
  | case2 a rest ih => rw [walkFrom, ih, pushAll_eq_append, listing_append, listing_cons]

/-- Every thing is listed before those in it, and these before what comes after it. -/
theorem walk_eq_listing (items : List α) : n.walk items = n.listing items := by
  rw [walk, pushAll_eq_append, List.append_nil, walkFrom_eq_listing]

/-- A map that takes what is in a thing to what is in its image takes listings to listings. -/
theorem map_listing {β : Type} {m : Nesting β} (g : α → β)
    (hinner : ∀ a, m.inner (g a) = (n.inner a).map g) (items : List α) :
    (n.listing items).map g = m.listing (items.map g) := by
  rw [← walkFrom_eq_listing, ← walkFrom_eq_listing]
  induction items using walkFrom.induct n with
  | case1 =>
    rw [walkFrom, List.map_nil, walkFrom]
  | case2 a rest ih =>
    rw [pushAll_eq_append, List.map_append] at ih
    rw [walkFrom, List.map_cons, List.map_cons, walkFrom, pushAll_eq_append, pushAll_eq_append,
      ih, hinner]

/-! ## Keys -/

/-- The keys tell things apart. -/
def TellApart (key : α → κ) (items : List α) : Prop :=
  ∀ a ∈ items, ∀ b ∈ items, key a = key b → a = b

theorem TellApart.mono {items more : List α} (h : TellApart key more) (hsub : items ⊆ more) :
    TellApart key items := fun a ha b hb => h a (hsub ha) b (hsub hb)

/-! ## The loop -/

variable [DecidableEq κ]

theorem visitFrom_nil (n : Nesting α) (key : α → κ) (seen : List κ) :
    n.visitFrom key seen [] = [] := by
  rw [visitFrom]

theorem visitFrom_of_mem {seen : List κ} {a : α} (h : key a ∈ seen) (rest : List α) :
    n.visitFrom key seen (a :: rest) = n.visitFrom key seen rest := by
  rw [visitFrom, if_pos (List.contains_iff_mem.mpr h)]

theorem visitFrom_of_not_mem {seen : List κ} {a : α} (h : key a ∉ seen) (rest : List α) :
    n.visitFrom key seen (a :: rest) =
      a :: n.visitFrom key (key a :: seen) (n.inner a ++ rest) := by
  rw [visitFrom, if_neg (mt List.contains_iff_mem.mp h), pushAll_eq_append]

/-- Nothing is listed that is not in one of the things. -/
theorem mem_of_mem_visitFrom {seen : List κ} {stack : List α} {b : α}
    (h : b ∈ n.visitFrom key seen stack) : b ∈ n.listing stack := by
  induction seen, stack using visitFrom.induct n key with
  | case1 seen =>
    rw [visitFrom_nil] at h
    exact absurd h List.not_mem_nil
  | case2 seen a rest hseen ih =>
    rw [visitFrom_of_mem (List.contains_iff_mem.mp hseen)] at h
    rw [listing_cons]
    exact List.mem_cons_of_mem a (List.mem_append_right _ (ih h))
  | case3 seen a rest hseen ih =>
    rw [visitFrom_of_not_mem (mt List.contains_iff_mem.mpr hseen), List.mem_cons] at h
    rw [pushAll_eq_append, listing_append] at ih
    rw [listing_cons, List.mem_cons]
    exact h.imp_right ih

theorem mem_of_mem_visit {roots : List α} {b : α} (h : b ∈ n.visit key roots) :
    b ∈ n.listing roots := by
  rw [visit, pushAll_eq_append, List.append_nil] at h
  exact mem_of_mem_visitFrom h

/-- No key is listed twice, nor one that was met before. -/
theorem nodup_map_visitFrom (seen : List κ) (stack : List α) :
    ((n.visitFrom key seen stack).map key).Nodup ∧
      ∀ a ∈ n.visitFrom key seen stack, key a ∉ seen := by
  induction seen, stack using visitFrom.induct n key with
  | case1 seen =>
    rw [visitFrom_nil]
    exact ⟨List.nodup_nil, fun a ha => absurd ha List.not_mem_nil⟩
  | case2 seen a rest hseen ih =>
    rw [visitFrom_of_mem (List.contains_iff_mem.mp hseen)]
    exact ih
  | case3 seen a rest hseen ih =>
    have hnew : key a ∉ seen := mt List.contains_iff_mem.mpr hseen
    rw [pushAll_eq_append] at ih
    obtain ⟨hnodup, hfresh⟩ := ih
    rw [visitFrom_of_not_mem hnew, List.map_cons, List.nodup_cons]
    refine ⟨⟨fun hin => ?_, hnodup⟩, fun b hb => ?_⟩
    · obtain ⟨b, hb, hkey⟩ := List.mem_map.mp hin
      exact hfresh b hb (hkey ▸ List.mem_cons_self)
    · rcases List.mem_cons.mp hb with rfl | hb
      · exact hnew
      · exact fun h => hfresh b hb (List.mem_cons_of_mem _ h)

theorem nodup_map_visit (n : Nesting α) (key : α → κ) (roots : List α) :
    ((n.visit key roots).map key).Nodup := (nodup_map_visitFrom _ _).1

/-- Of the things that were met before, all that is in them was met as well. -/
def Closed (n : Nesting α) (key : α → κ) (seen : List κ) (items : List α) : Prop :=
  ∀ a ∈ items, key a ∈ seen → ∀ b ∈ n.preOrder a, key b ∈ seen

/-- A thing that is listed with all that is in it leaves nothing half met. -/
theorem Closed.met {seen : List κ} {a : α} {items : List α}
    (hkeys : TellApart key items) (hinside : n.preOrder a ⊆ items)
    (hclosed : n.Closed key seen items) : n.Closed key (met key seen (n.preOrder a)) items := by
  intro b hb hseen c hc
  rw [mem_met_iff] at hseen ⊢
  rcases hseen with hseen | ⟨d, hd, hkey⟩
  · exact Or.inl (hclosed b hb hseen c hc)
  · obtain rfl : d = b := hkeys d (hinside hd) b hb hkey
    exact Or.inr ⟨c, (preOrder_subset hd).1 hc, rfl⟩

/-- Things on top of the stack are listed in pre-order before the rest is. -/
theorem visitFrom_append {items : List α} {seen : List κ}
    (hkeys : TellApart key (n.listing items)) (hclosed : n.Closed key seen (n.listing items))
    (rest : List α) :
    n.visitFrom key seen (items ++ rest) =
      unmet key seen (n.listing items) ++
        n.visitFrom key (FirstMet.met key seen (n.listing items)) rest := by
  induction hw : total n.weight items using Nat.strongRecOn generalizing items seen rest with
  | ind w ih =>
    subst hw
    cases items with
    | nil => rfl
    | cons a more =>
      have hlisting : n.listing (a :: more) = n.preOrder a ++ n.listing more := List.flatMap_cons
      have hself : a ∈ n.listing (a :: more) :=
        hlisting ▸ List.mem_append_left _ (self_mem_preOrder a)
      have hwithin : n.preOrder a ⊆ n.listing (a :: more) :=
        hlisting ▸ List.subset_append_left _ _
      have hinner : n.listing (n.inner a) ⊆ n.listing (a :: more) := fun b hb =>
        hwithin (mem_preOrder_iff.mpr (Or.inr hb))
      have hmore : n.listing more ⊆ n.listing (a :: more) :=
        hlisting ▸ List.subset_append_right _ _
      have hlight := n.lighter a
      rw [total_cons] at ih
      by_cases hseen : key a ∈ seen
      case pos =>
        have hall : ∀ b ∈ n.preOrder a, key b ∈ seen := hclosed a hself hseen
        have hrest := ih _ (by omega) (hkeys.mono hmore) (fun b hb => hclosed b (hmore hb)) rest rfl
        rw [List.cons_append, visitFrom_of_mem hseen, hrest, hlisting, unmet_append, met_append,
          unmet_eq_nil hall, met_eq_self hall, List.nil_append]
      case neg =>
        -- First all that is in the thing on top, then what was below it.
        have hinnerClosed : n.Closed key (key a :: seen) (n.listing (n.inner a)) := by
          intro b hb hbseen c hc
          rcases List.mem_cons.mp hbseen with hba | hbseen
          · obtain rfl : b = a := hkeys b (hinner hb) a hself hba
            exact absurd hb (not_mem_listing_inner b)
          · exact List.mem_cons_of_mem _ (hclosed b (hinner hb) hbseen c hc)
        have hpre : n.preOrder a = a :: n.listing (n.inner a) := n.preOrder_eq a
        have hfirst := ih _ (by omega) (hkeys.mono hinner) hinnerClosed (more ++ rest) rfl
        have hthen := ih _ (by omega) (hkeys.mono hmore)
          (fun b hb => hclosed.met hkeys hwithin b (hmore hb)) rest rfl
        rw [hpre, met_cons_of_not_mem hseen] at hthen
        rw [List.cons_append, visitFrom_of_not_mem hseen, hfirst, hthen, hlisting, unmet_append,
          met_append, hpre, unmet_cons_of_not_mem hseen, met_cons_of_not_mem hseen,
          List.cons_append, List.cons_append, List.append_assoc]

/-- Where keys tell things apart, the stack lists them in pre-order, each where it is met first. -/
theorem visit_eq {roots : List α} (hkeys : TellApart key (n.listing roots)) :
    n.visit key roots = (n.listing roots).eraseDupsBy fun a b => decide (key a = key b) := by
  have hclosed : n.Closed key [] (n.listing roots) := fun _ _ h => absurd h List.not_mem_nil
  have hrun := visitFrom_append hkeys hclosed []
  rw [visit, pushAll_eq_append, hrun, visitFrom_nil, List.append_nil, unmet_eq_eraseDupsBy]
  simp

theorem mem_visit_iff {roots : List α} (hkeys : TellApart key (n.listing roots)) {b : α} :
    b ∈ n.visit key roots ↔ b ∈ n.listing roots := by
  refine ⟨mem_of_mem_visit, fun hb => ?_⟩
  obtain ⟨c, hc, hbc⟩ : ∃ c ∈ (n.listing roots).eraseDupsBy fun a b => decide (key a = key b),
      b = c ∨ decide (key b = key c) = true := exists_mem_eraseDupsBy hb
  have heq : b = c := hbc.elim id fun h =>
    hkeys b hb c (mem_of_mem_eraseDupsBy hc) (of_decide_eq_true h)
  rw [visit_eq hkeys, heq]
  exact hc

end Nesting
end SchemaModels

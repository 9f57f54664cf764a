/-
Lists in which, of several items that are alike, the first one is kept.

Occurrences, the constants of selections and their values are all listed this way.  `eraseDupsBy`
keeps an item unless one before it is alike, so nothing new appears, every item is kept or is like
one that is, and no two that are kept are alike.
-/
import Mathlib.Data.List.Induction
import Mathlib.Data.List.Nodup
import SchemaModels.FirstMet

namespace SchemaModels
namespace FirstMet

variable {α : Type} {alike : α → α → Bool}

theorem mem_of_mem_eraseDupsBy {a : α} :
    ∀ {l : List α}, a ∈ l.eraseDupsBy alike → a ∈ l
  | [], h => h
  | b :: rest, h => by
    rw [List.eraseDupsBy_cons, List.mem_cons] at h
    rcases h with rfl | h
    · exact List.mem_cons_self
    · exact List.mem_cons_of_mem b (List.mem_of_mem_filter (mem_of_mem_eraseDupsBy h))
termination_by l => l.length
decreasing_by exact Nat.lt_succ_of_le (List.length_filter_le _ rest)

/-- An item is kept, or one that it is like is kept in its place. -/
theorem exists_mem_eraseDupsBy {a : α} :
    ∀ {l : List α}, a ∈ l → ∃ b ∈ l.eraseDupsBy alike, a = b ∨ alike a b = true
  | b :: rest, h => by
    rw [List.eraseDupsBy_cons]
    by_cases hab : a = b ∨ alike a b = true
    · exact ⟨b, List.mem_cons_self, hab⟩
    · have hne : a ≠ b := fun e => hab (Or.inl e)
      have hf : alike a b = false := Bool.eq_false_iff.mpr fun e => hab (Or.inr e)
      have ha : a ∈ rest.filter fun b' => alike b' b = false :=
        List.mem_filter.mpr ⟨(List.mem_cons.mp h).resolve_left hne, by simpa using hf⟩
      obtain ⟨c, hc, hac⟩ := exists_mem_eraseDupsBy ha
      exact ⟨c, List.mem_cons_of_mem b hc, hac⟩
termination_by l => l.length
decreasing_by exact Nat.lt_succ_of_le (List.length_filter_le _ rest)

theorem pairwise_eraseDupsBy :
    ∀ l : List α, (l.eraseDupsBy alike).Pairwise fun a b => alike b a = false
  | [] => List.Pairwise.nil
  | a :: rest => by
    rw [List.eraseDupsBy_cons, List.pairwise_cons]
    refine ⟨fun b hb => ?_, pairwise_eraseDupsBy _⟩
    simpa using (List.mem_filter.mp (mem_of_mem_eraseDupsBy hb)).2
termination_by l => l.length
decreasing_by exact Nat.lt_succ_of_le (List.length_filter_le _ rest)

/-- Where no two items are alike, all are kept. -/
theorem eraseDupsBy_eq_self {l : List α} (h : l.Pairwise fun a b => alike b a = false) :
    l.eraseDupsBy alike = l := by
  induction l with
  | nil => rfl
  | cons a rest ih =>
    rw [List.pairwise_cons] at h
    have hrest : rest.filter (fun b => alike b a = false) = rest :=
      List.filter_eq_self.mpr fun b hb => by simpa using h.1 b hb
    rw [List.eraseDupsBy_cons, hrest, ih h.2]

theorem eraseDupsBy_congr {other : α → α → Bool} :
    ∀ {l : List α}, (∀ a ∈ l, ∀ b ∈ l, alike a b = other a b) →
      l.eraseDupsBy alike = l.eraseDupsBy other
  | [], _ => rfl
  | a :: rest, h => by
    have hfilter : rest.filter (fun b => alike b a = false) =
        rest.filter (fun b => other b a = false) :=
      List.filter_congr fun b hb => by rw [h b (List.mem_cons_of_mem a hb) a List.mem_cons_self]
    rw [List.eraseDupsBy_cons, List.eraseDupsBy_cons, hfilter]
    refine congrArg (List.cons a) (eraseDupsBy_congr fun b hb c hc => ?_)
    exact h b (List.mem_cons_of_mem a (List.mem_of_mem_filter hb)) c
      (List.mem_cons_of_mem a (List.mem_of_mem_filter hc))
termination_by l => l.length
decreasing_by exact Nat.lt_succ_of_le (List.length_filter_le _ rest)

/-- Items that are alike through a map may be told apart after it. -/
theorem map_eraseDupsBy {β : Type} {alike : β → β → Bool} (g : α → β) :
    ∀ l : List α, (l.eraseDupsBy fun a b => alike (g a) (g b)).map g = (l.map g).eraseDupsBy alike
  | [] => rfl
  | a :: rest => by
    rw [List.eraseDupsBy_cons, List.map_cons, map_eraseDupsBy g, List.map_cons,
      List.eraseDupsBy_cons, List.filter_map]
    rfl
termination_by l => l.length
decreasing_by exact Nat.lt_succ_of_le (List.length_filter_le _ rest)

theorem map_eraseDupsBy_beq {β : Type} [BEq β] (g : α → β) (l : List α) :
    (l.eraseDupsBy fun a b => g a == g b).map g = (l.map g).eraseDups :=
  @map_eraseDupsBy α β (· == ·) g l

theorem nodup_eraseDups [DecidableEq α] (l : List α) : l.eraseDups.Nodup := by
  refine (pairwise_eraseDupsBy l).imp fun {a b} hne hab => ?_
  rw [hab, beq_self_eq_true] at hne
  exact absurd hne (by decide)

theorem eraseDups_eq_self_iff [DecidableEq α] {l : List α} : l.eraseDups = l ↔ l.Nodup := by
  constructor
  · intro h
    rw [← h]
    exact nodup_eraseDups l
  · intro h
    exact eraseDupsBy_eq_self (h.imp fun hne => beq_eq_false_iff_ne.mpr (Ne.symm hne))

/-! ## Keys met before -/

section Keys

variable {κ : Type} [DecidableEq κ] {key : α → κ}

/-- The keys that are known after several items, the last one first. -/
def met (key : α → κ) (seen : List κ) (items : List α) : List κ :=
  ((unmet key seen items).map key).reverse ++ seen

theorem unmet_cons_of_mem {seen : List κ} {a : α} (h : key a ∈ seen) (rest : List α) :
    unmet key seen (a :: rest) = unmet key seen rest := by
  rw [unmet, if_pos (List.contains_iff_mem.mpr h)]

theorem unmet_cons_of_not_mem {seen : List κ} {a : α} (h : key a ∉ seen) (rest : List α) :
    unmet key seen (a :: rest) = a :: unmet key (key a :: seen) rest := by
  rw [unmet, if_neg (mt List.contains_iff_mem.mp h)]

theorem met_cons_of_not_mem {seen : List κ} {a : α} (h : key a ∉ seen) (rest : List α) :
    met key seen (a :: rest) = met key (key a :: seen) rest := by
  rw [met, met, unmet_cons_of_not_mem h, List.map_cons, List.reverse_cons, List.append_assoc]
  rfl

theorem unmet_append (seen : List κ) (items more : List α) :
    unmet key seen (items ++ more) =
      unmet key seen items ++ unmet key (met key seen items) more := by
  induction items generalizing seen with
  | nil => rfl
  | cons a rest ih =>
    by_cases h : key a ∈ seen
    · rw [List.cons_append, unmet_cons_of_mem h, ih, met, met, unmet_cons_of_mem h]
    · rw [List.cons_append, unmet_cons_of_not_mem h, unmet_cons_of_not_mem h, ih,
        met_cons_of_not_mem h, List.cons_append]

theorem met_append (seen : List κ) (items more : List α) :
    met key seen (items ++ more) = met key (met key seen items) more := by
  rw [met, unmet_append, List.map_append, List.reverse_append, List.append_assoc]
  rfl

theorem mem_met_iff {items : List α} {seen : List κ} {k : κ} :
    k ∈ met key seen items ↔ k ∈ seen ∨ ∃ a ∈ items, key a = k := by
  induction items generalizing seen with
  | nil => simp [met, unmet]
  | cons a rest ih =>
    rw [List.exists_mem_cons_iff]
    by_cases h : key a ∈ seen
    · rw [met, unmet_cons_of_mem h, ← met, ih]
      refine or_congr_right' fun hk => ?_
      exact (or_iff_right fun e : key a = k => hk (e ▸ h)).symm
    · rw [met_cons_of_not_mem h, ih, List.mem_cons, or_comm (a := k = key a), or_assoc, eq_comm]

theorem unmet_eq_nil {seen : List κ} {items : List α} (h : ∀ a ∈ items, key a ∈ seen) :
    unmet key seen items = [] := by
  induction items with
  | nil => rfl
  | cons a rest ih =>
    rw [unmet_cons_of_mem (h a List.mem_cons_self)]
    exact ih fun b hb => h b (List.mem_cons_of_mem a hb)

theorem met_eq_self {seen : List κ} {items : List α} (h : ∀ a ∈ items, key a ∈ seen) :
    met key seen items = seen := by
  rw [met, unmet_eq_nil h]
  rfl

theorem unmet_eq_eraseDupsBy (seen : List κ) :
    ∀ items : List α, unmet key seen items =
      (items.filter fun a => key a ∉ seen).eraseDupsBy fun a b => decide (key a = key b) := by
  intro items
  induction items generalizing seen with
  | nil => rfl
  | cons a rest ih =>
    by_cases h : key a ∈ seen
    · rw [unmet_cons_of_mem h, ih, List.filter_cons_of_neg (by simpa using h)]
    · rw [unmet_cons_of_not_mem h, ih, List.filter_cons_of_pos (by simpa using h),
        List.eraseDupsBy_cons, List.filter_filter]
      congr 3
      funext b
      simp [List.mem_cons, not_or]

/-! ## The first items by position -/

theorem mem_of_mem_unmet {seen : List κ} {items : List α} {a : α} (h : a ∈ unmet key seen items) :
    a ∈ items := by
  rw [unmet_eq_eraseDupsBy] at h
  exact List.mem_of_mem_filter (mem_of_mem_eraseDupsBy h)

theorem unmet_concat_of_mem {items : List α} {last : α} (h : ∃ a ∈ items, key a = key last) :
    unmet key [] (items ++ [last]) = unmet key [] items := by
  have hmet : key last ∈ met key [] items := mem_met_iff.mpr (Or.inr h)
  rw [unmet_append, unmet_cons_of_mem hmet, unmet, List.append_nil]

theorem unmet_concat_of_not_mem {items : List α} {last : α} (h : ∀ a ∈ items, key a ≠ key last) :
    unmet key [] (items ++ [last]) = unmet key [] items ++ [last] := by
  have hmet : key last ∉ met key [] items := by
    intro hmem
    obtain ⟨a, ha, heq⟩ := (mem_met_iff.mp hmem).resolve_left List.not_mem_nil
    exact h a ha heq
  rw [unmet_append, unmet_cons_of_not_mem hmet, unmet]

/-- The items that no item before shares the key with. -/
def firsts (key : α → κ) (items : List α) : List α :=
  (items.zipIdx.filter fun (a, i) => (items.take i).all fun b => key b ≠ key a).map Prod.fst

theorem firsts_concat (items : List α) (last : α) :
    firsts key (items ++ [last]) =
      firsts key items ++ [last].filter fun a => items.all fun b => key b ≠ key a := by
  have hbefore : items.zipIdx.filter (fun (a, i) =>
        ((items ++ [last]).take i).all fun b => key b ≠ key a) =
      items.zipIdx.filter fun (a, i) => (items.take i).all fun b => key b ≠ key a := by
    refine List.filter_congr fun (a, i) ha => ?_
    have hi : i ≤ items.length := Nat.le_of_lt (List.snd_lt_of_mem_zipIdx ha)
    show ((items ++ [last]).take i).all _ = _
    rw [List.take_append_of_le_length hi]
  have hlast : (items ++ [last]).take items.length = items := List.take_left
  rw [firsts, List.zipIdx_append, List.filter_append, hbefore, List.map_append, ← firsts,
    List.zipIdx_singleton, List.filter_singleton, List.filter_singleton, Nat.zero_add]
  simp only [hlast]
  cases items.all fun b => key b ≠ key last with
  | true => rfl
  | false => rfl

theorem unmet_eq_firsts (items : List α) : unmet key [] items = firsts key items := by
  induction items using List.reverseRecOn with
  | nil => rfl
  | append_singleton items last ih =>
    rw [firsts_concat, List.filter_singleton]
    by_cases h : ∃ a ∈ items, key a = key last
    · have hall : (items.all fun b => key b ≠ key last) = false := by simpa using h
      rw [unmet_concat_of_mem h, ih, hall, cond_false, List.append_nil]
    · have hnone : ∀ a ∈ items, key a ≠ key last := fun a ha he => h ⟨a, ha, he⟩
      have hall : (items.all fun b => key b ≠ key last) = true := by simpa using hnone
      rw [unmet_concat_of_not_mem hnone, ih, hall, cond_true]

theorem find?_of_mem_unmet {items : List α} {a : α} (h : a ∈ unmet key [] items) :
    items.find? (fun b => key b = key a) = some a := by
  induction items using List.reverseRecOn with
  | nil => exact absurd h List.not_mem_nil
  | append_singleton items last ih =>
    rw [List.find?_append]
    by_cases hlast : ∃ b ∈ items, key b = key last
    · rw [unmet_concat_of_mem hlast] at h
      rw [ih h, Option.some_or]
    · have hnone : ∀ b ∈ items, key b ≠ key last := fun b hb he => hlast ⟨b, hb, he⟩
      rw [unmet_concat_of_not_mem hnone, List.mem_append, List.mem_singleton] at h
      rcases h with h | rfl
      · rw [ih h, Option.some_or]
      · have hbefore : items.find? (fun b => key b = key a) = none :=
          List.find?_eq_none.mpr fun b hb => by simpa using hnone b hb
        rw [hbefore, Option.none_or, List.find?_singleton, if_pos (decide_eq_true rfl)]

theorem exists_mem_unmet {items : List α} {a : α} (h : a ∈ items) :
    ∃ b ∈ unmet key [] items, key b = key a := by
  have hmet : key a ∈ met key [] items := mem_met_iff.mpr (Or.inr ⟨a, h, rfl⟩)
  rw [met, List.append_nil, List.mem_reverse] at hmet
  exact List.mem_map.mp hmet

theorem pairwise_unmet (items : List α) :
    (unmet key [] items).Pairwise fun a b => key a ≠ key b := by
  rw [unmet_eq_eraseDupsBy]
  refine (pairwise_eraseDupsBy _).imp fun {a b} h e => ?_
  exact absurd e.symm (of_decide_eq_false h)

theorem map_unmet {β : Type} (g : β → α) (seen : List κ) (items : List β) :
    (unmet (fun b => key (g b)) seen items).map g = unmet key seen (items.map g) := by
  have hmap := @map_eraseDupsBy β α (fun a b => decide (key a = key b)) g
  rw [unmet_eq_eraseDupsBy, unmet_eq_eraseDupsBy, List.filter_map, ← hmap]
  rfl

/-- Items whose keys are first ones, each key once: the first items of their kind, where a kind is
a matter of the key.  An item whose key is first stands before all others of its kind, so to ask for
its key is to ask for itself. -/
theorem unmet_filter_unmet {μ : Type} [DecidableEq μ] (kind : κ → μ) (items : List α) :
    unmet key [] (items.filter fun a => (unmet kind [] (items.map key)).contains (key a)) =
      unmet (fun a => kind (key a)) [] items := by
  induction items using List.reverseRecOn with
  | nil => rfl
  | append_singleton items last ih =>
    rw [List.map_append, List.map_singleton, List.filter_append, List.filter_singleton]
    by_cases h : ∃ a ∈ items, kind (key a) = kind (key last)
    · have hkinds : ∃ k ∈ items.map key, kind k = kind (key last) := by simpa using h
      rw [unmet_concat_of_mem h, unmet_concat_of_mem hkinds, ← ih]
      cases hkept : (unmet kind [] (items.map key)).contains (key last) with
      | true =>
        -- The key was kept for an earlier item, which has it still.
        obtain ⟨a, ha, hkey⟩ := List.mem_map.mp (mem_of_mem_unmet (List.contains_iff_mem.mp hkept))
        rw [cond_true]
        exact unmet_concat_of_mem ⟨a, List.mem_filter.mpr ⟨ha, hkey ▸ hkept⟩, hkey⟩
      | false => rw [cond_false, List.append_nil]
    · have hkinds : ∀ a ∈ items, kind (key a) ≠ kind (key last) := fun a ha he => h ⟨a, ha, he⟩
      have hnone : ∀ k ∈ items.map key, kind k ≠ kind (key last) := List.forall_mem_map.mpr hkinds
      have hkeys : ∀ a ∈ items, key a ≠ key last := fun a ha he => hkinds a ha (congrArg kind he)
      have hsame : items.filter (fun a =>
            (unmet kind [] (items.map key) ++ [key last]).contains (key a)) =
          items.filter fun a => (unmet kind [] (items.map key)).contains (key a) := by
        refine List.filter_congr fun a ha => ?_
        simp [hkeys a ha]
      have hkept : (unmet kind [] (items.map key) ++ [key last]).contains (key last) = true := by
        simp
      rw [unmet_concat_of_not_mem hkinds, unmet_concat_of_not_mem hnone, hsame, hkept, cond_true,
        ← ih]
      exact unmet_concat_of_not_mem fun a ha => hkeys a (List.mem_of_mem_filter ha)

end Keys

end FirstMet
end SchemaModels

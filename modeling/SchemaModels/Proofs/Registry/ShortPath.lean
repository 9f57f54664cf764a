/-
What a shortened path is.

A path is anchored in another one if it is what is left of that one when segments other than the last
are dropped.  Shortening drops one segment at a time, and only where what is left is anchored in none
of the other paths.  Anchored paths of anchored paths are anchored, so where no single segment can be
dropped no several can either, and the result is as short as it can be: `minimal_shorten`.  In which
order the other paths are given makes no difference (`shorten_congr`).
-/
import Mathlib.Data.List.Basic
import SchemaModels.Registry.ShortPath

namespace SchemaModels
namespace ShortPath

/-! ## Anchored paths -/

/-- `short` is left of `long` when segments other than the last are dropped. -/
def Anchored (short long : List String) : Prop :=
  ∃ before within last, short = before ++ [last] ∧ long = within ++ [last] ∧ before.Sublist within

variable {others : List (List String)} {short long path : List String}

theorem anchored_concat_iff {before within : List String} {a b : String} :
    Anchored (before ++ [a]) (within ++ [b]) ↔ a = b ∧ before.Sublist within := by
  constructor
  · rintro ⟨before', within', last, hshort, hlong, hsub⟩
    obtain ⟨rfl, hlast⟩ := List.append_inj' hshort rfl
    obtain ⟨rfl, hlast'⟩ := List.append_inj' hlong rfl
    exact ⟨List.singleton_inj.mp (hlast.trans hlast'.symm), hsub⟩
  · rintro ⟨rfl, hsub⟩
    exact ⟨before, within, a, rfl, rfl, hsub⟩

theorem not_anchored_nil : ¬Anchored [] long := by
  rintro ⟨before, -, last, hshort, -⟩
  exact List.append_ne_nil_of_right_ne_nil before (List.cons_ne_nil last []) hshort.symm

theorem not_anchored_in_nil : ¬Anchored short [] := by
  rintro ⟨-, within, last, -, hlong, -⟩
  exact List.append_ne_nil_of_right_ne_nil within (List.cons_ne_nil last []) hlong.symm

theorem isAnchored_iff : isAnchored short long = true ↔ Anchored short long := by
  rcases List.eq_nil_or_concat' short with rfl | ⟨before, a, rfl⟩
  · exact iff_of_false Bool.false_ne_true not_anchored_nil
  rcases List.eq_nil_or_concat' long with rfl | ⟨within, b, rfl⟩
  · exact iff_of_false (by simp [isAnchored]) not_anchored_in_nil
  rw [anchored_concat_iff]
  simp [isAnchored]

theorem collides_iff : collides others path = true ↔ ∃ other ∈ others, Anchored path other := by
  rw [collides, List.any_eq_true]
  simp only [isAnchored_iff]

theorem Anchored.refl (h : path ≠ []) : Anchored path path :=
  ⟨path.dropLast, path.dropLast, path.getLast h, (List.dropLast_append_getLast h).symm,
    (List.dropLast_append_getLast h).symm, List.Sublist.refl _⟩

theorem Anchored.trans {middle : List String} (h : Anchored short middle)
    (h' : Anchored middle long) : Anchored short long := by
  obtain ⟨before, between, last, rfl, rfl, hsub⟩ := h
  obtain ⟨between', within, last', hmiddle, rfl, hsub'⟩ := h'
  obtain ⟨rfl, hlast⟩ := List.append_inj' hmiddle rfl
  exact anchored_concat_iff.mpr ⟨List.singleton_inj.mp hlast, hsub.trans hsub'⟩

theorem Anchored.getLast?_eq (h : Anchored short long) : short.getLast? = long.getLast? := by
  obtain ⟨before, within, last, rfl, rfl, -⟩ := h
  rw [List.getLast?_concat, List.getLast?_concat]

theorem Anchored.sublist (h : Anchored short long) : short.Sublist long := by
  obtain ⟨before, within, last, rfl, rfl, hsub⟩ := h
  exact hsub.append_right [last]

theorem Anchored.collides (h : Anchored short path) (hpath : collides others path = true) :
    ShortPath.collides others short = true := by
  obtain ⟨other, hother, hin⟩ := collides_iff.mp hpath
  exact collides_iff.mpr ⟨other, hother, h.trans hin⟩

/-! ## Dropping one segment -/

theorem dropOne?_eq_some {shorter : List String} :
    ∀ {bound : Nat}, dropOne? others path bound = some shorter →
      ¬collides others shorter = true ∧ ∃ i < bound, shorter = path.eraseIdx i
  | bound + 1, h => by
    rw [dropOne?] at h
    split at h
    case isTrue =>
      obtain ⟨hapart, i, hi, hshorter⟩ := dropOne?_eq_some h
      exact ⟨hapart, i, Nat.lt_succ_of_lt hi, hshorter⟩
    case isFalse hapart =>
      obtain rfl := Option.some.inj h
      exact ⟨hapart, bound, Nat.lt_succ_self bound, rfl⟩

theorem collides_of_dropOne?_eq_none :
    ∀ {bound : Nat}, dropOne? others path bound = none →
      ∀ i < bound, collides others (path.eraseIdx i) = true
  | bound + 1, h, i, hi => by
    rw [dropOne?] at h
    split at h
    case isTrue hcollides =>
      rcases Nat.lt_succ_iff_lt_or_eq.mp hi with hlt | rfl
      · exact collides_of_dropOne?_eq_none h i hlt
      · exact hcollides
    case isFalse => exact absurd h (Option.some_ne_none _)

theorem anchored_eraseIdx {i : Nat} (h : i < path.length - 1) :
    Anchored (path.eraseIdx i) path := by
  rcases List.eq_nil_or_concat' path with rfl | ⟨within, last, rfl⟩
  · exact absurd h (Nat.not_lt_zero i)
  have hi : i < within.length := by simpa using h
  rw [List.eraseIdx_append_of_lt_length hi]
  exact anchored_concat_iff.mpr ⟨rfl, List.eraseIdx_sublist within i⟩

/-- What is left of a list without some of its items is left of it without a single one. -/
theorem exists_sublist_eraseIdx {items rest : List String} (h : rest.Sublist items)
    (hne : rest ≠ items) : ∃ i < items.length, rest.Sublist (items.eraseIdx i) := by
  induction h with
  | slnil => exact absurd rfl hne
  | cons item h ih => exact ⟨0, Nat.succ_pos _, h⟩
  | cons_cons item h ih =>
    obtain ⟨i, hi, hsub⟩ := ih fun heq => hne (congrArg (List.cons item) heq)
    exact ⟨i + 1, Nat.succ_lt_succ hi, hsub.cons_cons item⟩

theorem Anchored.exists_eraseIdx (h : Anchored short path) (hne : short ≠ path) :
    ∃ i < path.length - 1, Anchored short (path.eraseIdx i) := by
  obtain ⟨before, within, last, rfl, rfl, hsub⟩ := h
  obtain ⟨i, hi, hrest⟩ := exists_sublist_eraseIdx hsub fun heq => hne (by rw [heq])
  refine ⟨i, by simpa using hi, ?_⟩
  rw [List.eraseIdx_append_of_lt_length hi]
  exact anchored_concat_iff.mpr ⟨rfl, hrest⟩

theorem anchored_of_dropOne?_eq_some {shorter : List String}
    (h : dropOne? others path (path.length - 1) = some shorter) : Anchored shorter path := by
  obtain ⟨-, i, hi, rfl⟩ := dropOne?_eq_some h
  exact anchored_eraseIdx hi

/-! ## The whole run -/

/-- What holds of a path and passes on to every path with one segment less holds of the shortened
path, and of that no segment can be dropped any more. -/
theorem shorten_induction {P : List String → Prop}
    (hdrop : ∀ path shorter, dropOne? others path (path.length - 1) = some shorter →
      P path → P shorter) (hpath : P path) :
    P (shorten others path) ∧
      dropOne? others (shorten others path) ((shorten others path).length - 1) = none := by
  induction path using shorten.induct others with
  | case1 path hnone =>
    rw [shorten, hnone]
    exact ⟨hpath, hnone⟩
  | case2 path shorter hshorter hlt ih =>
    rw [shorten, hshorter]
    simp only [if_pos hlt]
    exact ih (hdrop path shorter hshorter hpath)
  | case3 path shorter hshorter hle =>
    obtain ⟨-, i, hi, rfl⟩ := dropOne?_eq_some hshorter
    have hlength := List.length_eraseIdx_of_lt (show i < path.length by omega)
    omega

theorem anchored_shorten (others : List (List String)) (h : path ≠ []) :
    Anchored (shorten others path) path :=
  (shorten_induction (P := fun p => Anchored p path)
    (fun _ _ hshorter hp => (anchored_of_dropOne?_eq_some hshorter).trans hp) (Anchored.refl h)).1

theorem not_collides_shorten (h : ¬collides others path = true) :
    ¬collides others (shorten others path) = true :=
  (shorten_induction (P := fun p => ¬collides others p = true)
    (fun _ _ hshorter _ => (dropOne?_eq_some hshorter).1) h).1

theorem shorten_of_collides (h : collides others path = true) : shorten others path = path := by
  cases hdrop : dropOne? others path (path.length - 1) with
  | none => rw [shorten, hdrop]
  | some shorter =>
    exact absurd ((anchored_of_dropOne?_eq_some hdrop).collides h) (dropOne?_eq_some hdrop).1

theorem collides_of_anchored_shorten (h : Anchored short (shorten others path))
    (hne : short ≠ shorten others path) : collides others short = true := by
  have hend : dropOne? others (shorten others path) ((shorten others path).length - 1) = none :=
    (shorten_induction (P := fun _ => True) (fun _ _ _ _ => trivial) trivial).2
  obtain ⟨i, hi, hin⟩ := h.exists_eraseIdx hne
  exact hin.collides (collides_of_dropOne?_eq_none hend i hi)

/-- A path that is anchored in another one is kept.  Any other is shortened to one that is anchored
in none, while all that can be dropped of that, one segment or several, leaves a path that is. -/
theorem minimal_shorten (others : List (List String)) (h : path ≠ []) :
    Anchored (shorten others path) path ∧
      ((∃ other ∈ others, Anchored path other) → shorten others path = path) ∧
      ((∀ other ∈ others, ¬Anchored path other) →
        (∀ other ∈ others, ¬Anchored (shorten others path) other) ∧
        ∀ shorter, Anchored shorter (shorten others path) → shorter ≠ shorten others path →
          ∃ other ∈ others, Anchored shorter other) := by
  refine ⟨anchored_shorten others h, ?kept, fun hnone => ⟨?apart, ?least⟩⟩
  case kept => exact fun hother => shorten_of_collides (collides_iff.mpr hother)
  case apart =>
    intro other hother hin
    have hpath : ¬collides others path = true := fun hcollides => by
      obtain ⟨other, hother, hin⟩ := collides_iff.mp hcollides
      exact hnone other hother hin
    exact not_collides_shorten hpath (collides_iff.mpr ⟨other, hother, hin⟩)
  case least =>
    exact fun shorter hin hne => collides_iff.mp (collides_of_anchored_shorten hin hne)

/-- On the way to an address with two parties of one name, one of the two has to stay. -/
theorem minimal_shorten_address :
    ["Party", "Party", "Address"] ≠ [] ∧
      shorten [["Order", "Address"], ["Address"]] ["Party", "Party", "Address"] =
        ["Party", "Address"] ∧
      ∀ shorter, Anchored shorter ["Party", "Address"] → shorter ≠ ["Party", "Address"] →
        ∃ other ∈ [["Order", "Address"], ["Address"]], Anchored shorter other := by
  have hpath : ["Party", "Party", "Address"] ≠ [] := List.cons_ne_nil _ _
  have hshort : shorten [["Order", "Address"], ["Address"]] ["Party", "Party", "Address"] =
      ["Party", "Address"] := by decide +kernel
  have hnone : ∀ other ∈ [["Order", "Address"], ["Address"]],
      ¬Anchored ["Party", "Party", "Address"] other := by
    intro other hother hin
    have hcollides := collides_iff.mpr ⟨other, hother, hin⟩
    revert hcollides
    decide
  obtain ⟨-, -, hleast⟩ := minimal_shorten [["Order", "Address"], ["Address"]] hpath
  have hleast := (hleast hnone).2
  rw [hshort] at hleast
  exact ⟨hpath, hshort, hleast⟩

/-! ## The order of the others -/

variable {others' : List (List String)}

theorem collides_congr (h : ∀ p, p ∈ others ↔ p ∈ others') : collides others = collides others' := by
  funext path
  rw [Bool.eq_iff_iff, collides_iff, collides_iff]
  simp only [h]

theorem dropOne?_congr (h : collides others = collides others') (path : List String)
    (bound : Nat) : dropOne? others path bound = dropOne? others' path bound := by
  induction bound with
  | zero => rfl
  | succ bound ih => rw [dropOne?, dropOne?, h, ih]

theorem shorten_congr (h : ∀ p, p ∈ others ↔ p ∈ others') (path : List String) :
    shorten others path = shorten others' path := by
  have hdrop := dropOne?_congr (collides_congr h)
  induction path using shorten.induct others with
  | case1 path hnone =>
    have hnone' := hdrop path (path.length - 1) ▸ hnone
    rw [shorten, shorten, hnone, hnone']
  | case2 path shorter hshorter hlt ih =>
    have hshorter' := hdrop path (path.length - 1) ▸ hshorter
    rw [shorten, shorten, hshorter, hshorter']
    simp only [if_pos hlt]
    exact ih
  | case3 path shorter hshorter hle =>
    have hshorter' := hdrop path (path.length - 1) ▸ hshorter
    rw [shorten, shorten, hshorter, hshorter']
    simp only [if_neg hle]

end ShortPath
end SchemaModels

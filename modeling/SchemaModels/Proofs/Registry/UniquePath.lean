/-
What the names of an entry are made from.

Every path is shortened by itself, against the full paths of the others and not against what became
of those.  The results differ all the same: what a path is shortened to is anchored in no other, and a
path that is anchored in another is kept whole (`uniquePath_tells_apart`).

Shortening drops segments of the path and never the last one, and a claim takes the short path, the
full path or the full path with a number.  So the unique path of an entry is made of some of the
names along its lineage, with dots between them and digits behind them: `madeOf_uniquePath`.
-/
import SchemaModels.Proofs.Registry.Filing
import SchemaModels.Proofs.Registry.ShortPath

namespace SchemaModels

namespace Registry

/-! ## Shortening -/

theorem leaf_eq_of_getLast?_eq {o p : Occurrence} (h : o.path.getLast? = p.path.getLast?) :
    o.leaf = p.leaf := by
  rw [Occurrence.leaf, Occurrence.leaf, h]

theorem anchored_uniquePath (occurrences : List Occurrence) {o : Occurrence} (ho : o.path ≠ []) :
    ShortPath.Anchored (uniquePath occurrences o) o.path := by
  simp only [uniquePath]
  split
  case isTrue =>
    have hleaf : o.leaf = o.path.getLast ho := by
      rw [Occurrence.leaf, List.getLast?_eq_some_getLast ho, Option.getD_some]
    rw [hleaf]
    exact ⟨[], o.path.dropLast, o.path.getLast ho, rfl, (List.dropLast_append_getLast ho).symm,
      List.nil_sublist _⟩
  case isFalse => exact ShortPath.anchored_shorten _ ho

theorem uniquePath_sublist (occurrences : List Occurrence) {o : Occurrence} (ho : o.path ≠ []) :
    (uniquePath occurrences o).Sublist o.path ∧ uniquePath occurrences o ≠ [] := by
  have hin := anchored_uniquePath occurrences ho
  refine ⟨hin.sublist, fun hnil => ?_⟩
  rw [hnil] at hin
  exact ShortPath.not_anchored_nil hin

/-- Beside another occurrence with its leaf, an occurrence is named after its path shortened against
the whole paths of all those. -/
theorem exists_uniquePath_eq_shorten {occurrences : List Occurrence} {o p : Occurrence}
    (hp : p ∈ occurrences) (hleaf : o.leaf = p.leaf) (hsame : ¬p.same o = true) :
    ∃ others, p.path ∈ others ∧ uniquePath occurrences o = ShortPath.shorten others o.path := by
  have hother : p ∈ occurrences.filter fun p => p.leaf == o.leaf && !p.same o :=
    List.mem_filter.mpr ⟨hp, by simp [hleaf, hsame]⟩
  refine ⟨_, List.mem_map_of_mem hother, ?_⟩
  rw [uniquePath, if_neg]
  exact fun hempty => List.ne_nil_of_mem hother (List.isEmpty_iff.mp hempty)

/-! ## Telling occurrences apart -/

theorem eq_of_same {f : Forest} {roots : List Nat} {o p : Occurrence}
    (ho : o ∈ f.occurrences roots) (hp : p ∈ f.occurrences roots) (h : p.same o = true) :
    o = p := by
  have hsites : ((f.occurrences roots).map Occurrence.site).Nodup := Nesting.nodup_map_visit _ _ _
  refine List.inj_on_of_nodup_map hsites ho hp ?_
  rw [Occurrence.same, Bool.and_eq_true, beq_iff_eq, beq_iff_eq] at h
  rw [Occurrence.site, Occurrence.site, Occurrence.key, Occurrence.key, h.1, h.2]

/-- A path that is shortened is anchored in no path of another occurrence with its leaf, and one that
is anchored in such a path is kept. -/
theorem uniquePath_cases {f : Forest} {roots : List Nat} {o p : Occurrence}
    (ho : o ∈ f.occurrences roots) (hp : p ∈ f.occurrences roots) (hne : o ≠ p)
    (hleaf : o.leaf = p.leaf) :
    uniquePath (f.occurrences roots) o = o.path ∨
      ¬ShortPath.Anchored o.path p.path ∧
        ¬ShortPath.Anchored (uniquePath (f.occurrences roots) o) p.path := by
  obtain ⟨others, hother, hunique⟩ :=
    exists_uniquePath_eq_shorten hp hleaf fun hsame => hne (eq_of_same ho hp hsame)
  rw [hunique]
  by_cases hcollides : ShortPath.collides others o.path = true
  · exact .inl (ShortPath.shorten_of_collides hcollides)
  · have hshort := ShortPath.not_collides_shorten hcollides
    refine .inr ⟨fun hin => hcollides ?_, fun hin => hshort ?_⟩
    · exact ShortPath.collides_iff.mpr ⟨p.path, hother, hin⟩
    · exact ShortPath.collides_iff.mpr ⟨p.path, hother, hin⟩

theorem uniquePath_ne {f : Forest} {roots : List Nat} {o p : Occurrence}
    (ho : o ∈ f.occurrences roots) (hp : p ∈ f.occurrences roots) (hpaths : o.path ≠ p.path) :
    uniquePath (f.occurrences roots) o ≠ uniquePath (f.occurrences roots) p := by
  intro heq
  have hne : o ≠ p := fun h => hpaths (congrArg Occurrence.path h)
  have hino := anchored_uniquePath (f.occurrences roots) (Forest.isOccurrence_of_mem ho).path_ne_nil
  have hinp := anchored_uniquePath (f.occurrences roots) (Forest.isOccurrence_of_mem hp).path_ne_nil
  have hleaf : o.leaf = p.leaf :=
    leaf_eq_of_getLast?_eq (hino.getLast?_eq.symm.trans (heq ▸ hinp.getLast?_eq))
  -- The one path is anchored in both, so neither of the two was shortened to it.
  rcases uniquePath_cases ho hp hne hleaf with hkept | ⟨-, hapart⟩
  · rcases uniquePath_cases hp ho hne.symm hleaf.symm with hkept' | ⟨-, hapart⟩
    · exact hpaths (hkept.symm.trans (heq.trans hkept'))
    · exact hapart (heq ▸ hino)
  · exact hapart (heq ▸ hinp)

theorem uniquePath_of_path_eq {f : Forest} {roots : List Nat} {o p : Occurrence}
    (ho : o ∈ f.occurrences roots) (hp : p ∈ f.occurrences roots) (hne : o ≠ p)
    (hpaths : o.path = p.path) : uniquePath (f.occurrences roots) o = o.path := by
  have hleaf : o.leaf = p.leaf := leaf_eq_of_getLast?_eq (by rw [hpaths])
  rcases uniquePath_cases ho hp hne hleaf with hkept | ⟨hapart, -⟩
  · exact hkept
  · exact absurd (hpaths ▸ ShortPath.Anchored.refl (Forest.isOccurrence_of_mem ho).path_ne_nil)
      hapart

/-- Different paths are shortened to different ones, and their dotted forms differ too.  Classes that
are reached on one path keep it whole. -/
theorem uniquePath_tells_apart {f : Forest} {roots : List Nat} {o p : Occurrence}
    (ho : o ∈ f.occurrences roots) (hp : p ∈ f.occurrences roots) (hne : o ≠ p) :
    (o.path ≠ p.path →
      uniquePath (f.occurrences roots) o ≠ uniquePath (f.occurrences roots) p ∧
      ".".intercalate (uniquePath (f.occurrences roots) o) ≠
        ".".intercalate (uniquePath (f.occurrences roots) p)) ∧
    (o.path = p.path →
      uniquePath (f.occurrences roots) o = o.path ∧
      uniquePath (f.occurrences roots) p = p.path) := by
  refine ⟨fun hpaths => ?differ, fun hpaths => ?keep⟩
  case differ =>
    have hunique := uniquePath_ne ho hp hpaths
    have hseen := Forest.isOccurrence_of_mem ho
    have hseen' := Forest.isOccurrence_of_mem hp
    obtain ⟨hsub, hnil⟩ := uniquePath_sublist (f.occurrences roots) hseen.path_ne_nil
    obtain ⟨hsub', hnil'⟩ := uniquePath_sublist (f.occurrences roots) hseen'.path_ne_nil
    refine ⟨hunique, fun hdotted => hunique ?_⟩
    refine Forest.eq_of_intercalate_eq hnil hnil' ?_ ?_ hdotted
    · exact fun name hname => hseen.dot_not_mem_path name (hsub.subset hname)
    · exact fun name hname => hseen'.dot_not_mem_path name (hsub'.subset hname)
  case keep =>
    exact ⟨uniquePath_of_path_eq ho hp hne hpaths,
      uniquePath_of_path_eq hp ho hne.symm hpaths.symm⟩

/-- An address of a party within an order, and an address of each of two orders of one name. -/
def addressBundle : Bundle where
  classes :=
    [.node { qname := "a#Order", name := "Order" }
      [.node { qname := "a#Party", name := "Party" }
        [.node { qname := "a#Party#Address", name := "Address" } []],
       .node { qname := "a#Address", name := "Address" } []],
     .node { qname := "b#Order", name := "Order" }
      [.node { qname := "b#Address", name := "Address" } []]]

/-- The path of the orders' addresses is part of that of the party's, and both orders have it. -/
theorem addresses_told_apart :
    ∃ m, addressBundle.model = .ok m ∧
      ∃ party ∈ m.forest.occurrences [0, 4], ∃ order ∈ m.forest.occurrences [0, 4],
      ∃ twin ∈ m.forest.occurrences [0, 4],
        party.path = ["Order", "Party", "Address"] ∧ order.path = ["Order", "Address"] ∧
        twin.path = order.path ∧ twin ≠ order ∧
        uniquePath (m.forest.occurrences [0, 4]) party = ["Party", "Address"] ∧
        uniquePath (m.forest.occurrences [0, 4]) party ≠
          uniquePath (m.forest.occurrences [0, 4]) order ∧
        uniquePath (m.forest.occurrences [0, 4]) order = ["Order", "Address"] := by
  let party : Occurrence := ⟨2, [0, 1, 2], ["Order", "Party", "Address"]⟩
  let order : Occurrence := ⟨3, [0, 3], ["Order", "Address"]⟩
  let twin : Occurrence := ⟨5, [4, 5], ["Order", "Address"]⟩
  obtain ⟨m, hm, hcheck⟩ := addressBundle.exists_model
    (fun m => decide (party ∈ m.forest.occurrences [0, 4] ∧ order ∈ m.forest.occurrences [0, 4] ∧
      twin ∈ m.forest.occurrences [0, 4] ∧
      uniquePath (m.forest.occurrences [0, 4]) party = ["Party", "Address"]))
    (by decide +kernel)
  obtain ⟨hparty, horder, htwin, hshort⟩ := of_decide_eq_true hcheck
  have hpaths : party.path ≠ order.path := by decide
  have hne : party ≠ order := by decide
  have htwins : order ≠ twin := by decide
  exact ⟨m, hm, party, hparty, order, horder, twin, htwin, rfl, rfl, rfl, htwins.symm, hshort,
    ((uniquePath_tells_apart hparty horder hne).1 hpaths).1,
    ((uniquePath_tells_apart horder htwin htwins).2 rfl).1⟩

/-! ## Claiming -/

theorem claim_cases (r : Registry) (unique full : String) :
    r.claim unique full = unique ∨ r.claim unique full = full ∨
      ∃ n : Nat, r.claim unique full = full ++ toString n := by
  have hmem := List.mem_of_find?_eq_some (find?_candidates_eq_claim r unique full)
  rw [candidates, List.mem_cons, List.mem_cons] at hmem
  refine hmem.imp_right fun h => h.imp_right fun hnumbered => ?_
  obtain ⟨k, -, hk⟩ := List.mem_map.mp hnumbered
  exact ⟨k + 2, hk.symm⟩

/-- The text is made of some of the names, with dots between them and digits behind them. -/
def MadeOf (names : List String) (text : String) : Prop :=
  ∃ segments digits, segments.Sublist names ∧ segments ≠ [] ∧
    (∀ c ∈ digits.toList, c.isDigit = true) ∧ text = ".".intercalate segments ++ digits

theorem dot_cons_intercalate :
    ∀ {names : List String}, names ≠ [] →
      '.' :: (".".intercalate names).toList = names.flatMap fun name => '.' :: name.toList
  | [name], _ => by simp
  | name :: other :: rest, _ => by
    have hrest : '.' :: (".".intercalate (other :: rest)).toList =
        (other :: rest).flatMap fun name => '.' :: name.toList :=
      dot_cons_intercalate (List.cons_ne_nil other rest)
    rw [String.intercalate_cons_cons, List.flatMap_cons, ← hrest]
    simp

theorem madeOf_intercalate {names segments : List String} (hsub : segments.Sublist names)
    (hne : segments ≠ []) : MadeOf names (".".intercalate segments) :=
  ⟨segments, "", hsub, hne, fun c hc => absurd hc (by simp), String.append_empty.symm⟩

theorem madeOf_claim (r : Registry) (occurrences : List Occurrence) {o : Occurrence}
    (ho : o.path ≠ []) :
    MadeOf o.path (r.claim (".".intercalate (uniquePath occurrences o)) o.key) := by
  rcases claim_cases r (".".intercalate (uniquePath occurrences o)) o.key with h | h | ⟨n, h⟩
  · obtain ⟨hsub, hne⟩ := uniquePath_sublist occurrences ho
    rw [h]
    exact madeOf_intercalate hsub hne
  · rw [h]
    exact madeOf_intercalate (List.Sublist.refl _) ho
  · rw [h]
    exact ⟨o.path, toString n, List.Sublist.refl _, ho, fun _ => isDigit_of_mem_toString, rfl⟩

/-! ## Entries -/

theorem madeOf_addOccurrence {f : Forest} {roots : List Nat} {r : Registry} {o : Occurrence}
    (ho : o ∈ f.occurrences roots)
    (h : ∀ e ∈ r.entries, MadeOf (e.lineage.map f.pathName) e.uniquePath) :
    ∀ e ∈ (addOccurrence (f.occurrences roots) r o).entries,
      MadeOf (e.lineage.map f.pathName) e.uniquePath := by
  by_cases hfiled : (r.get? o).isSome = true
  · rw [addOccurrence, if_pos hfiled]
    exact h
  · rw [addOccurrence, if_neg hfiled, insert_of_not_mem fun hin => hfiled (isSome_get?_iff.mpr hin)]
    intro e he
    rcases List.mem_append.mp he with he | he
    · exact h e he
    · rw [List.mem_singleton.mp he]
      simp only [← (Forest.isOccurrence_of_mem ho).path_eq]
      exact madeOf_claim r _ (Forest.isOccurrence_of_mem ho).path_ne_nil

theorem madeOf_uniquePath {f : Forest} {schema version : String} {calls : List (List Nat)} :
    ∀ e ∈ (calls.foldl (resolve f) (empty schema version)).entries,
      MadeOf (e.lineage.map f.pathName) e.uniquePath :=
  foldl_resolve_induction
    (P := fun r => ∀ e ∈ r.entries, MadeOf (e.lineage.map f.pathName) e.uniquePath)
    (fun _ he => absurd he List.not_mem_nil) fun _ _ _ ho _ hr => madeOf_addOccurrence ho hr

end Registry
end SchemaModels

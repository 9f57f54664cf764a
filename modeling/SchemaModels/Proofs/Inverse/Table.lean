/-
What a table of keys holds after the keys of several occurrences are gathered.

A key is registered once and stays where it is, so a table knows exactly the keys that were asked
for: those of the requests of each occurrence, and these are made from the list attributes of models
that are not skipped.
-/
import Mathlib.Data.List.Nodup
import SchemaModels.Inverse
import SchemaModels.Proofs.Fold

namespace SchemaModels

def Listing.pairs {κ α : Type} (listing : Listing κ α) : List (κ × α) :=
  listing.flatMap fun (key, values) => values.map fun value => (key, value)

theorem Listing.pairs_file_perm {κ α : Type} [DecidableEq κ] (key : κ) (value : α)
    (listing : Listing κ α) :
    (listing.file key value).pairs.Perm ((key, value) :: listing.pairs) := by
  induction listing with
  | nil => exact List.Perm.refl _
  | cons entry rest ih =>
    obtain ⟨k, values⟩ := entry
    rw [file]
    by_cases hk : k = key
    · subst hk
      rw [if_pos rfl]
      simp only [pairs, List.flatMap_cons, List.map_append, List.append_assoc, List.map_cons,
        List.map_nil, List.singleton_append]
      exact List.perm_middle
    · rw [if_neg hk]
      exact (ih.append_left _).trans List.perm_middle

namespace InverseTable

def keys (table : InverseTable) : List InverseKey := table.entries.flatMap Prod.snd

/-- The keys of all models, each with its model, in the order in which the table lists them. -/
def listed (table : InverseTable) : List (String × InverseKey) := table.entries.pairs

theorem keys_eq (table : InverseTable) : table.keys = table.listed.map Prod.snd := by
  rw [keys, listed, Listing.pairs, List.map_flatMap]
  refine List.flatMap_congr fun entry _ => ?_
  rw [List.map_map]
  exact (List.map_id _).symm

/-! ## One key -/

theorem hasKey_iff {table : InverseTable} {child : String} {key : InverseKey} :
    table.hasKey child key = true ↔ key ∈ table.get child := by
  rw [hasKey, List.contains_iff_mem]

/-- Registering a key adds it to those of its model, unless it is there, and to no others. -/
theorem get_register (table : InverseTable) (child : String) (key : InverseKey) (c : String) :
    (table.register child key).get c =
      if c = child ∧ key ∉ table.get child then table.get child ++ [key] else table.get c := by
  by_cases hkey : key ∈ table.get child
  · rw [register, if_pos (hasKey_iff.mpr hkey), if_neg fun h => h.2 hkey]
  · rw [register, if_neg fun h => hkey (hasKey_iff.mp h), get, Listing.under_file]
    by_cases hc : c = child
    · rw [if_pos hc, if_pos ⟨hc, hkey⟩, get]
    · rw [if_neg hc, if_neg fun h => hc h.1, get]

theorem mem_get_register {table : InverseTable} {child c : String} {key k : InverseKey} :
    k ∈ (table.register child key).get c ↔ k ∈ table.get c ∨ child = c ∧ key = k := by
  rw [get_register]
  split
  · rename_i h
    obtain ⟨rfl, -⟩ := h
    simp [eq_comm]
  · rename_i h
    refine ⟨Or.inl, fun hk => hk.elim id ?_⟩
    rintro ⟨rfl, rfl⟩
    by_contra hnot
    exact h ⟨rfl, hnot⟩

theorem mem_listed_of_mem_get {table : InverseTable} {child : String} {key : InverseKey}
    (h : key ∈ table.get child) : (child, key) ∈ table.listed := by
  rw [get, Listing.under] at h
  cases hgroup : table.entries.lookup child with
  | none =>
    rw [hgroup] at h
    exact absurd h List.not_mem_nil
  | some group =>
    rw [hgroup] at h
    obtain ⟨before, after, hsplit, -⟩ := List.lookup_eq_some_iff.mp hgroup
    refine List.mem_flatMap.mpr ⟨(child, group), hsplit ▸ by simp, ?_⟩
    exact List.mem_map.mpr ⟨key, h, rfl⟩

theorem mem_listed_register {table : InverseTable} {child : String} {key : InverseKey}
    {entry : String × InverseKey} :
    entry ∈ (table.register child key).listed ↔ entry ∈ table.listed ∨ (child, key) = entry := by
  by_cases hkey : key ∈ table.get child
  · rw [register, if_pos (hasKey_iff.mpr hkey)]
    refine ⟨Or.inl, fun h => h.elim id ?_⟩
    rintro rfl
    exact mem_listed_of_mem_get hkey
  · rw [register, if_neg fun h => hkey (hasKey_iff.mp h), listed,
      (Listing.pairs_file_perm child key table.entries).mem_iff, List.mem_cons, or_comm,
      eq_comm (a := entry)]
    rfl

theorem mem_keys_register {table : InverseTable} {child : String} {key k : InverseKey} :
    k ∈ (table.register child key).keys ↔ k ∈ table.keys ∨ key = k := by
  simp only [keys_eq, List.mem_map, mem_listed_register, or_and_right, exists_or, exists_eq_left']

theorem nodup_get_register {table : InverseTable} {child c : String} {key : InverseKey}
    (h : (table.get c).Nodup) : ((table.register child key).get c).Nodup := by
  rw [get_register]
  split
  · rename_i hc
    obtain ⟨rfl, hnew⟩ := hc
    rw [← List.concat_eq_append]
    exact h.concat hnew
  · exact h

end InverseTable

/-! ## The keys of an occurrence -/

theorem listTarget_eq_some {f : Forest} {reach : Reach} {rules : SkipRules}
    {parents : List String} {a : Attribute} {target : Nat}
    (h : listTarget f reach rules parents a = some target) :
    a.isList = true ∧ rules.skips a.name parents = false ∧
      ∃ qname, a.primaryType = some (.named qname) := by
  unfold listTarget at h
  split at h
  · exact absurd h (by simp)
  · rename_i hlist
    simp only [Bool.or_eq_true, Bool.not_eq_eq_eq_not, Bool.not_true, not_or,
      Bool.not_eq_false, Bool.not_eq_true] at hlist
    split at h
    · rename_i qname hqname
      exact ⟨hlist.1, hlist.2, qname, hqname⟩
    · exact absurd h (by simp)

namespace InverseSource

theorem requestOf_eq_some_iff {src : InverseSource} {o : Occurrence} {parent : RegistryEntry}
    {c : SchemaClass} {a : Attribute} {r : InverseRequest} :
    src.requestOf o parent c a = some r ↔ ∃ target item,
      listTarget src.forest src.reach src.rules (src.forest.lineageNames o.lineage) a
        = some target ∧
      src.names.forReference target o.lineage = some item ∧
      r = ⟨item.registryName,
        ⟨parent.registryName, src.naming.inverseFieldName a.name c.name⟩, c.name, a.name⟩ := by
  simp only [requestOf, Option.bind_eq_bind, Option.bind_eq_some_iff, Option.pure_def,
    Option.some.injEq, eq_comm (a := r)]
  constructor
  · rintro ⟨target, htarget, item, hitem, h⟩
    exact ⟨target, item, htarget, hitem, h⟩
  · rintro ⟨target, item, htarget, hitem, h⟩
    exact ⟨target, htarget, item, hitem, h⟩

theorem mem_requests_iff {src : InverseSource} {o : Occurrence} {r : InverseRequest} :
    r ∈ src.requests o ↔ ∃ c parent, src.forest.get? o.id = some c ∧
      src.names.get? o = some parent ∧ c.isComplex = true ∧
      src.rules.skipsLineage (src.forest.lineageNames o.lineage) = false ∧
      ∃ a ∈ c.attributes, src.requestOf o parent c a = some r := by
  constructor
  · intro h
    unfold requests at h
    split at h
    · rename_i c parent hc hparent
      split at h
      · exact absurd h List.not_mem_nil
      · rename_i hkept
        simp only [Bool.or_eq_true, Bool.not_eq_eq_eq_not, Bool.not_true, not_or,
          Bool.not_eq_false, Bool.not_eq_true] at hkept
        obtain ⟨a, ha, hr⟩ := List.mem_filterMap.mp h
        exact ⟨c, parent, hc, hparent, hkept.1, hkept.2, a, ha, hr⟩
    · exact absurd h List.not_mem_nil
  · rintro ⟨c, parent, hc, hparent, hcomplex, hkept, a, ha, hr⟩
    simp only [requests, hc, hparent, hcomplex, hkept]
    exact List.mem_filterMap.mpr ⟨a, ha, hr⟩

/-! ## The keys of many occurrences -/

section

variable {src : InverseSource} {occurrences : List Occurrence}

/-- What a table without keys lacks and a key brings about is brought about by a request of some
occurrence. -/
theorem collect_iff {P : InverseTable → Prop} {Q : InverseRequest → Prop} (hempty : ¬P {})
    (hstep : ∀ table r, P (table.register r.child r.key) ↔ P table ∨ Q r) :
    P (src.collect {} occurrences) ↔ ∃ o ∈ occurrences, ∃ r ∈ src.requests o, Q r := by
  rw [collect, foldl_iff hstep]
  constructor
  · rintro (h | ⟨r, hr, hq⟩)
    · exact absurd h hempty
    · obtain ⟨o, ho, hro⟩ := List.mem_flatMap.mp hr
      exact ⟨o, ho, r, hro, hq⟩
  · rintro ⟨o, ho, r, hr, hq⟩
    exact Or.inr ⟨r, List.mem_flatMap.mpr ⟨o, ho, hr⟩, hq⟩

/-- The keys that are gathered are those that some occurrence asks for. -/
theorem mem_get_collect {child : String} {key : InverseKey} :
    key ∈ (src.collect {} occurrences).get child ↔
      ∃ o ∈ occurrences, ∃ r ∈ src.requests o, r.child = child ∧ r.key = key :=
  collect_iff (P := fun table => key ∈ table.get child) List.not_mem_nil
    fun _ _ => InverseTable.mem_get_register

theorem mem_keys_collect {key : InverseKey} :
    key ∈ (src.collect {} occurrences).keys ↔
      ∃ o ∈ occurrences, ∃ r ∈ src.requests o, r.key = key :=
  collect_iff (P := fun table => key ∈ table.keys) List.not_mem_nil
    fun _ _ => InverseTable.mem_keys_register

end

theorem nodup_get_collect (src : InverseSource) (occurrences : List Occurrence)
    (child : String) : ((src.collect {} occurrences).get child).Nodup := by
  refine List.foldlRecOn (motive := fun table => (InverseTable.get table child).Nodup) _ _
    List.nodup_nil fun table htable r _ => ?_
  exact InverseTable.nodup_get_register htable

end InverseSource
end SchemaModels

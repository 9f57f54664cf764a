/-
The entries of a registry and the indexes beside them stay in step.

`InStep` says what a registry is to be at all times: no class and path is filed twice, no name is
handed out twice, the taken names are those of the entries, every name is made from the unique path
of its entry, and the positions of a class are those of its entries in order.  Filing under a free
name keeps all of it, so whatever lists of roots are resolved one after the other, the registry is
in step, and its entries are filed under the classes and paths that were reached.
-/
import Mathlib.Data.List.Nodup
import SchemaModels.Proofs.Fold
import SchemaModels.Proofs.Occurrence
import SchemaModels.Proofs.Registry.Claim

namespace SchemaModels
namespace Registry

def sites (r : Registry) : List (Nat × String) := r.entries.map RegistryEntry.site

def names (r : Registry) : List String := r.entries.map (·.registryName)

/-- The parts of a registry agree with each other. -/
structure InStep (r : Registry) : Prop where
  sites_nodup : r.sites.Nodup
  names_nodup : r.names.Nodup
  /-- The taken names are the names of the entries, in another order. -/
  taken_perm : r.taken.Perm r.names
  /-- Every name is made from the unique path. -/
  registryName_eq : ∀ e ∈ r.entries, e.registryName = r.nameOf e.uniquePath
  /-- The positions of a class are those of its entries, in order. -/
  positionsOf_eq : ∀ id, r.positionsOf id = r.entries.findIdxs (·.id == id)

/-! ## One entry -/

theorem isSome_get?_iff {r : Registry} {o : Occurrence} :
    (r.get? o).isSome = true ↔ o.site ∈ r.sites := by
  simp [get?, sites, List.find?_isSome]

theorem get?_eq_some {r : Registry} {o : Occurrence} {e : RegistryEntry} (h : r.get? o = some e) :
    e ∈ r.entries ∧ e.site = o.site :=
  ⟨List.mem_of_find?_eq_some h, by simpa using List.find?_some h⟩

theorem InStep.eq_of_registryName_eq {r : Registry} (hr : r.InStep) {d e : RegistryEntry}
    (hd : d ∈ r.entries) (he : e ∈ r.entries) (h : d.registryName = e.registryName) : d = e :=
  List.inj_on_of_nodup_map hr.names_nodup hd he h

theorem insert_of_not_mem {r : Registry} {e : RegistryEntry} (h : e.site ∉ r.sites) :
    r.insert e = { r with
      entries := r.entries ++ [e]
      taken := r.taken.insert e.registryName
      positions := r.positions.file e.id r.entries.length } := by
  have hpos : r.entries.findIdx (·.site == e.site) = r.entries.length := by
    rw [List.findIdx_eq_length]
    intro d hd
    refine beq_eq_false_iff_ne.mpr fun hde => h ?_
    exact hde ▸ List.mem_map_of_mem hd
  simp only [insert, hpos, if_neg (Nat.lt_irrefl _)]

theorem sites_insert {r : Registry} {e : RegistryEntry} (h : e.site ∉ r.sites) :
    (r.insert e).sites = r.sites.concat e.site := by
  rw [insert_of_not_mem h, List.concat_eq_append]
  simp only [sites, List.map_append, List.map_cons, List.map_nil]

theorem names_insert {r : Registry} {e : RegistryEntry} (h : e.site ∉ r.sites) :
    (r.insert e).names = r.names.concat e.registryName := by
  rw [insert_of_not_mem h, List.concat_eq_append]
  simp only [names, List.map_append, List.map_cons, List.map_nil]

theorem InStep.insert {r : Registry} (hr : r.InStep) {e : RegistryEntry} (hsite : e.site ∉ r.sites)
    (hfree : e.registryName ∉ r.taken) (hname : e.registryName = r.nameOf e.uniquePath) :
    (r.insert e).InStep := by
  have hnew : e.registryName ∉ r.names := fun h => hfree (hr.taken_perm.mem_iff.mpr h)
  constructor
  case sites_nodup =>
    rw [sites_insert hsite]
    exact hr.sites_nodup.concat hsite
  case names_nodup =>
    rw [names_insert hsite]
    exact hr.names_nodup.concat hnew
  case taken_perm =>
    rw [names_insert hsite, insert_of_not_mem hsite, List.insert_of_not_mem hfree,
      List.concat_eq_append]
    exact (hr.taken_perm.cons _).trans (List.perm_append_singleton _ _).symm
  case registryName_eq =>
    intro d hd
    rw [insert_of_not_mem hsite] at hd ⊢
    rcases List.mem_append.mp hd with hd | hd
    · exact hr.registryName_eq d hd
    · rw [List.mem_singleton.mp hd]
      exact hname
  case positionsOf_eq =>
    intro id
    have hold := hr.positionsOf_eq
    rw [insert_of_not_mem hsite]
    simp only [positionsOf] at hold ⊢
    rw [Listing.under_file, List.findIdxs_append, List.findIdxs_singleton, Nat.zero_add]
    by_cases h : id = e.id
    · subst h
      simp [hold]
    · simp [h, Ne.symm h, hold]

/-! ## One occurrence -/

/-- An occurrence that is filed changes nothing; another one gets an entry under a free name. -/
theorem addOccurrence_cases (occurrences : List Occurrence) (r : Registry) (o : Occurrence) :
    (o.site ∈ r.sites ∧ addOccurrence occurrences r o = r) ∨
      (o.site ∉ r.sites ∧ ∃ e : RegistryEntry, e.site = o.site ∧ e.lineage = o.lineage ∧
        e.registryName ∉ r.taken ∧ e.registryName = r.nameOf e.uniquePath ∧
        addOccurrence occurrences r o = r.insert e) := by
  by_cases h : o.site ∈ r.sites
  · exact Or.inl ⟨h, if_pos (isSome_get?_iff.mpr h)⟩
  · refine Or.inr ⟨h, _, ?_, ?_, ?_, ?_, if_neg fun hsome => h (isSome_get?_iff.mp hsome)⟩
    · rfl
    · rfl
    · exact nameOf_claim_not_mem_taken r _ _
    · rfl

theorem InStep.addOccurrence {r : Registry} (hr : r.InStep) (occurrences : List Occurrence)
    (o : Occurrence) : (r.addOccurrence occurrences o).InStep := by
  rcases addOccurrence_cases occurrences r o with
    ⟨-, hsame⟩ | ⟨hnew, e, hsite, -, hfree, hname, hins⟩
  · rw [hsame]
    exact hr
  · rw [hins]
    exact hr.insert (hsite ▸ hnew) hfree hname

theorem nameOf_addOccurrence (occurrences : List Occurrence) (r : Registry) (o : Occurrence) :
    (addOccurrence occurrences r o).nameOf = r.nameOf := by
  rcases addOccurrence_cases occurrences r o with ⟨-, hsame⟩ | ⟨-, e, -, -, -, -, hins⟩
  · rw [hsame]
  · rw [hins]
    rfl

theorem mem_sites_addOccurrence {occurrences : List Occurrence} {r : Registry} {o : Occurrence}
    {s : Nat × String} :
    s ∈ (addOccurrence occurrences r o).sites ↔ s ∈ r.sites ∨ o.site = s := by
  rcases addOccurrence_cases occurrences r o with ⟨hold, hsame⟩ | ⟨hnew, e, hsite, -, -, -, hins⟩
  · rw [hsame]
    exact ⟨Or.inl, fun h => h.elim id fun hs => hs ▸ hold⟩
  · rw [hins, sites_insert (hsite ▸ hnew), hsite, List.concat_eq_append, List.mem_append,
      List.mem_singleton, eq_comm]

/-! ## Many calls -/

/-- What adding a reached occurrence keeps holds after any number of calls. -/
theorem foldl_resolve_induction {f : Forest} {P : Registry → Prop} {r : Registry}
    {calls : List (List Nat)} (start : P r)
    (step : ∀ roots ∈ calls, ∀ o ∈ f.occurrences roots, ∀ r, P r →
      P (addOccurrence (f.occurrences roots) r o)) :
    P (calls.foldl (resolve f) r) := by
  refine List.foldlRecOn calls (resolve f) start fun r hr roots hroots => ?_
  refine List.foldlRecOn (f.occurrences roots) _ hr fun r hr o ho => ?_
  exact step roots hroots o ho r hr

theorem inStep_empty (schema version : String) : (empty schema version).InStep where
  sites_nodup := List.nodup_nil
  names_nodup := List.nodup_nil
  taken_perm := List.Perm.nil
  registryName_eq := fun _ he => absurd he List.not_mem_nil
  positionsOf_eq := fun _ => rfl

theorem InStep.foldl_resolve {r : Registry} (hr : r.InStep) (f : Forest)
    (calls : List (List Nat)) : (calls.foldl (resolve f) r).InStep :=
  foldl_resolve_induction hr fun _ _ o _ _ hr => hr.addOccurrence _ o

theorem nameOf_foldl_resolve (f : Forest) (r : Registry) (calls : List (List Nat)) :
    (calls.foldl (resolve f) r).nameOf = r.nameOf :=
  foldl_resolve_induction (P := fun s => s.nameOf = r.nameOf) rfl
    fun _ _ o _ s hs => (nameOf_addOccurrence _ s o).trans hs

theorem mem_sites_resolve {f : Forest} {r : Registry} {roots : List Nat} {s : Nat × String} :
    s ∈ (resolve f r roots).sites ↔ s ∈ r.sites ∨ ∃ o ∈ f.occurrences roots, o.site = s :=
  foldl_iff (f := addOccurrence (f.occurrences roots)) (P := fun r => s ∈ r.sites)
    (Q := fun o => o.site = s) (fun _ _ => mem_sites_addOccurrence) _ r

theorem mem_sites_foldl_resolve {f : Forest} {r : Registry} {calls : List (List Nat)}
    {s : Nat × String} :
    s ∈ (calls.foldl (resolve f) r).sites ↔
      s ∈ r.sites ∨ ∃ roots ∈ calls, ∃ o ∈ f.occurrences roots, o.site = s :=
  foldl_iff (f := resolve f) (P := fun r => s ∈ r.sites)
    (Q := fun roots => ∃ o ∈ f.occurrences roots, o.site = s) (fun _ _ => mem_sites_resolve) calls r

theorem exists_occurrence_of_mem_entries {f : Forest} {schema version : String}
    {calls : List (List Nat)} :
    ∀ e ∈ (calls.foldl (resolve f) (empty schema version)).entries,
      ∃ roots ∈ calls, ∃ o ∈ f.occurrences roots, e.site = o.site ∧ e.lineage = o.lineage := by
  refine foldl_resolve_induction (P := fun r => ∀ e ∈ r.entries, ∃ roots ∈ calls,
    ∃ o ∈ f.occurrences roots, e.site = o.site ∧ e.lineage = o.lineage) ?_ ?_
  · intro e he
    exact absurd he List.not_mem_nil
  · intro roots hroots o ho r hr e he
    rcases addOccurrence_cases (f.occurrences roots) r o with
      ⟨-, hsame⟩ | ⟨hnew, d, hsite, hlineage, -, -, hins⟩
    · rw [hsame] at he
      exact hr e he
    · rw [hins, insert_of_not_mem (hsite ▸ hnew)] at he
      rcases List.mem_append.mp he with he | he
      · exact hr e he
      · rw [List.mem_singleton.mp he]
        exact ⟨roots, hroots, o, ho, hsite, hlineage⟩

theorem exists_get?_foldl_resolve {f : Forest} {r : Registry} {calls : List (List Nat)}
    {roots : List Nat} (hroots : roots ∈ calls) {o : Occurrence} (ho : o ∈ f.occurrences roots) :
    ∃ e, (calls.foldl (resolve f) r).get? o = some e :=
  Option.isSome_iff_exists.mp (isSome_get?_iff.mpr
    (mem_sites_foldl_resolve.mpr (Or.inr ⟨roots, hroots, o, ho, rfl⟩)))

/-- After any calls, whatever roots they name, there is one entry for each class and path that was
reached and no other, all registry names differ and are the taken ones, every name is made from the
unique path of its entry, and the positions of a class are those of its entries in order. -/
theorem entries_after_calls (f : Forest) (schema version : String) (calls : List (List Nat)) :
    let r := calls.foldl (resolve f) (empty schema version)
    (∀ roots ∈ calls, ∀ o ∈ f.occurrences roots,
      r.entries.countP (fun e => e.id == o.id && e.path == o.key) = 1) ∧
    (∀ e ∈ r.entries, ∃ roots ∈ calls, ∃ o ∈ f.occurrences roots,
      e.id = o.id ∧ e.path = o.key ∧ e.lineage = o.lineage) ∧
    (∀ roots ∈ calls, ∀ o ∈ f.occurrences roots, ∀ roots' ∈ calls, ∀ p ∈ f.occurrences roots',
      o.key = p.key → o.path = p.path) ∧
    (r.entries.map (·.registryName)).Nodup ∧
    r.taken.Nodup ∧ (∀ name, name ∈ r.taken ↔ ∃ e ∈ r.entries, e.registryName = name) ∧
    (∀ e ∈ r.entries,
      e.registryName = schema ++ "." ++ version ++ "." ++ slugify e.uniquePath) ∧
    ∀ id, r.positionsOf id = r.entries.findIdxs (·.id == id) := by
  intro r
  have hr : r.InStep := (inStep_empty schema version).foldl_resolve f calls
  have hname : r.nameOf = (empty schema version).nameOf :=
    nameOf_foldl_resolve f (empty schema version) calls
  refine ⟨?once, ?reached, ?paths, hr.names_nodup, ?takenOnce, ?taken, ?names, hr.positionsOf_eq⟩
  case once =>
    intro roots hroots o ho
    have hmem : o.site ∈ r.sites := mem_sites_foldl_resolve.mpr (Or.inr ⟨roots, hroots, o, ho, rfl⟩)
    have hcount := List.count_eq_one_of_mem hr.sites_nodup hmem
    rw [sites, List.count, List.countP_map] at hcount
    rw [← hcount]
    rfl
  case reached =>
    intro e he
    obtain ⟨roots, hroots, o, ho, hsite, hlineage⟩ := exists_occurrence_of_mem_entries e he
    exact ⟨roots, hroots, o, ho, congrArg Prod.fst hsite, congrArg Prod.snd hsite, hlineage⟩
  case paths =>
    intro roots _ o ho roots' _ p hp hkey
    exact Forest.path_eq_of_key_eq ho hp hkey
  case takenOnce => exact hr.taken_perm.nodup_iff.mpr hr.names_nodup
  case taken =>
    intro name
    rw [hr.taken_perm.mem_iff, names, List.mem_map]
  case names =>
    intro e he
    rw [hr.registryName_eq e he, hname]
    rfl

end Registry
end SchemaModels

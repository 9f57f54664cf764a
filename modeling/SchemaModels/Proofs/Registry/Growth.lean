/-
A registry only grows.

An occurrence that is filed changes nothing, and any other one gets an entry behind those there are.
So whatever roots are resolved, the entries from before stay where they are and as they are, and the
new ones stand behind them in the order of the occurrences; the two indexes grow with them.  Where
every occurrence is filed already, as it is when roots are resolved once more, nothing is added and
the whole registry stays as it was.
-/
import SchemaModels.Proofs.Registry.Filing

namespace SchemaModels
namespace Registry

variable {f : Forest} {r : Registry} {roots : List Nat}

/-- The entry is about the occurrence. -/
def IsEntryOf (o : Occurrence) (e : RegistryEntry) : Prop :=
  e.id = o.id ∧ e.path = o.key ∧ e.lineage = o.lineage

/-- The second registry has all that is in the first, and in the same places. -/
structure Extends (before after : Registry) : Prop where
  entries : before.entries <+: after.entries
  taken : before.taken ⊆ after.taken
  positions : ∀ id, before.positionsOf id <+: after.positionsOf id

theorem Extends.refl (r : Registry) : Extends r r :=
  ⟨List.prefix_rfl, List.Subset.refl _, fun _ => List.prefix_rfl⟩

theorem Extends.trans {r s t : Registry} (h : Extends r s) (h' : Extends s t) : Extends r t where
  entries := h.entries.trans h'.entries
  taken := List.Subset.trans h.taken h'.taken
  positions := fun id => (h.positions id).trans (h'.positions id)

/-! ## One occurrence -/

theorem extends_insert {e : RegistryEntry} (h : e.site ∉ r.sites) : Extends r (r.insert e) := by
  rw [insert_of_not_mem h]
  refine ⟨List.prefix_append _ _, fun name hname => List.mem_insert_of_mem hname, fun id => ?_⟩
  show r.positions.under id <+: (r.positions.file e.id r.entries.length).under id
  rw [Listing.under_file]
  by_cases hid : id = e.id
  · rw [if_pos hid, hid]
    exact List.prefix_append _ _
  · simp [hid]

theorem extends_addOccurrence (occurrences : List Occurrence) (r : Registry) (o : Occurrence) :
    Extends r (addOccurrence occurrences r o) := by
  rcases addOccurrence_cases occurrences r o with ⟨-, hsame⟩ | ⟨hnew, e, hsite, -, -, -, hins⟩
  · rw [hsame]
    exact Extends.refl r
  · rw [hins]
    exact extends_insert (hsite ▸ hnew)

/-! ## Many occurrences -/

/-- Of occurrences that differ in class or path, those that are not filed yet get entries, in their
order. -/
theorem entries_foldl_addOccurrence (occurrences : List Occurrence) {items : List Occurrence}
    (hnodup : (items.map Occurrence.site).Nodup) (r : Registry) :
    ∃ added, (items.foldl (addOccurrence occurrences) r).entries = r.entries ++ added ∧
      List.Forall₂ IsEntryOf (items.filter fun o => o.site ∉ r.sites) added := by
  induction items generalizing r with
  | nil => exact ⟨[], (List.append_nil _).symm, List.Forall₂.nil⟩
  | cons o rest ih =>
    obtain ⟨hdiffer, hrest⟩ := List.nodup_cons.mp hnodup
    rw [List.foldl_cons]
    rcases addOccurrence_cases occurrences r o with
      ⟨hold, hsame⟩ | ⟨hnew, e, hsite, hlineage, -, -, hins⟩
    · rw [hsame, List.filter_cons_of_neg (by simpa using hold)]
      exact ih hrest r
    · obtain ⟨added, hentries, hadded⟩ := ih hrest (r.insert e)
      have hlater : (rest.filter fun p => p.site ∉ (r.insert e).sites) =
          rest.filter fun p => p.site ∉ r.sites := by
        refine List.filter_congr fun p hp => ?_
        have hne : p.site ≠ o.site := fun h => hdiffer (h ▸ List.mem_map_of_mem hp)
        rw [sites_insert (hsite ▸ hnew), hsite]
        simp [hne]
      have he : IsEntryOf o e := ⟨congrArg Prod.fst hsite, congrArg Prod.snd hsite, hlineage⟩
      refine ⟨e :: added, ?_, ?_⟩
      · rw [hins, hentries, insert_of_not_mem (hsite ▸ hnew)]
        exact List.append_assoc _ _ _
      · rw [List.filter_cons_of_pos (by simpa using hnew), ← hlater]
        exact List.Forall₂.cons he hadded

theorem foldl_addOccurrence_eq_self (occurrences : List Occurrence) {items : List Occurrence}
    (hfiled : ∀ o ∈ items, (r.get? o).isSome = true) :
    items.foldl (addOccurrence occurrences) r = r := by
  refine List.foldlRecOn (motive := fun s => s = r) items _ rfl fun s hs o ho => ?_
  rw [hs]
  exact if_pos (hfiled o ho)

/-! ## Calls -/

theorem extends_resolve (f : Forest) (r : Registry) (roots : List Nat) :
    Extends r (resolve f r roots) :=
  List.foldlRecOn (motive := Extends r) _ _ (Extends.refl r) fun s hs o _ =>
    hs.trans (extends_addOccurrence _ s o)

theorem resolve_eq_self (hfiled : ∀ o ∈ f.occurrences roots, (r.get? o).isSome = true) :
    resolve f r roots = r := foldl_addOccurrence_eq_self _ hfiled

/-- Resolving roots keeps every entry in its place and appends one for each occurrence that had
none, in the order of the occurrences.  If all had one the registry stays as it is, and this is so
if the roots were resolved before, whatever was resolved since. -/
theorem resolve_appends (f : Forest) (r : Registry) (roots : List Nat) :
    (∃ added, (resolve f r roots).entries = r.entries ++ added ∧
      List.Forall₂ IsEntryOf ((f.occurrences roots).filter fun o => (r.get? o).isNone) added) ∧
    Extends r (resolve f r roots) ∧
    ((∀ o ∈ f.occurrences roots, (r.get? o).isSome = true) → resolve f r roots = r) ∧
    ∀ calls : List (List Nat), roots ∈ calls →
      resolve f (calls.foldl (resolve f) r) roots = calls.foldl (resolve f) r := by
  refine ⟨?appended, extends_resolve f r roots, resolve_eq_self, ?repeated⟩
  case appended =>
    have hsites : ((f.occurrences roots).map Occurrence.site).Nodup :=
      Nesting.nodup_map_visit _ _ _
    have hunfiled : ((f.occurrences roots).filter fun o => (r.get? o).isNone) =
        (f.occurrences roots).filter fun o => o.site ∉ r.sites := by
      refine List.filter_congr fun o _ => ?_
      rw [Bool.eq_iff_iff, decide_eq_true_iff, ← isSome_get?_iff]
      cases r.get? o <;> simp
    rw [hunfiled]
    exact entries_foldl_addOccurrence _ hsites r
  case repeated =>
    intro calls hcalled
    refine resolve_eq_self fun o ho => ?_
    obtain ⟨e, he⟩ := exists_get?_foldl_resolve (r := r) hcalled ho
    rw [he]
    rfl

end Registry
end SchemaModels

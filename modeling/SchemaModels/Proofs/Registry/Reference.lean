/-
References are to the closest entry of the class that is meant.

The positions of a class lead to its entries, in the order in which they were filed, and to no
others.  What two lineages share is their longest common beginning, and `closest` takes the first of
its entries that shares the most.  So a reference finds an entry just if the class has one, and then
the one that was filed first of those that are closest: `forReference_first_closest`.
-/
import SchemaModels.Proofs.Registry.Filing

namespace SchemaModels

/-- The entry and the lineage both begin with these classes. -/
def RegistryEntry.Shares (e : RegistryEntry) (lineage common : List Nat) : Prop :=
  common <+: e.lineage ∧ common <+: lineage

namespace Registry

/-! ## What lineages share -/

theorem length_le_sharedLength {common : List Nat} :
    ∀ {as bs : List Nat}, common <+: as → common <+: bs → common.length ≤ sharedLength as bs := by
  induction common with
  | nil => intro as bs _ _; exact Nat.zero_le _
  | cons c common ih =>
    intro as bs has hbs
    obtain ⟨as', rfl, has'⟩ := List.cons_prefix_iff.mp has
    obtain ⟨bs', rfl, hbs'⟩ := List.cons_prefix_iff.mp hbs
    have hrest := ih has' hbs'
    rw [sharedLength, if_pos rfl, List.length_cons]
    omega

theorem exists_shared_prefix (as bs : List Nat) :
    ∃ common, common <+: as ∧ common <+: bs ∧ common.length = sharedLength as bs := by
  induction as generalizing bs with
  | nil => exact ⟨[], List.nil_prefix, List.nil_prefix, by simp [sharedLength]⟩
  | cons a as ih =>
    cases bs with
    | nil => exact ⟨[], List.nil_prefix, List.nil_prefix, rfl⟩
    | cons b bs =>
      rw [sharedLength]
      by_cases h : a = b
      · subst h
        obtain ⟨common, has, hbs, hlength⟩ := ih bs
        refine ⟨a :: common, List.cons_prefix_cons.mpr ⟨rfl, has⟩,
          List.cons_prefix_cons.mpr ⟨rfl, hbs⟩, ?_⟩
        rw [if_pos rfl, List.length_cons, hlength]
      · rw [if_neg h]
        exact ⟨[], List.nil_prefix, List.nil_prefix, rfl⟩

end Registry

theorem RegistryEntry.Shares.length_le {e : RegistryEntry} {lineage common : List Nat}
    (h : e.Shares lineage common) : common.length ≤ Registry.sharedLength e.lineage lineage :=
  Registry.length_le_sharedLength h.1 h.2

theorem RegistryEntry.exists_shares (e : RegistryEntry) (lineage : List Nat) :
    ∃ common, e.Shares lineage common ∧
      common.length = Registry.sharedLength e.lineage lineage := by
  obtain ⟨common, hentry, hlineage, hlength⟩ := Registry.exists_shared_prefix e.lineage lineage
  exact ⟨common, ⟨hentry, hlineage⟩, hlength⟩

namespace Registry

variable {r : Registry} {target : Nat} {lineage : List Nat} {e : RegistryEntry}

/-! ## The closest entry of a list -/

theorem closest_eq_none_iff {entries : List RegistryEntry} :
    closest lineage entries = none ↔ entries = [] := by
  cases entries with
  | nil => simp [closest]
  | cons d rest =>
    rw [closest]
    cases closest lineage rest with
    | none => simp
    | some best =>
      simp only [reduceCtorEq, iff_false]
      split <;> exact Option.some_ne_none _

/-- The closest entry shares more with the lineage than those before it, and no less than those
behind it. -/
theorem closest_eq_some {entries : List RegistryEntry} (h : closest lineage entries = some e) :
    ∃ before after, entries = before ++ e :: after ∧
      (∀ d ∈ before, sharedLength d.lineage lineage < sharedLength e.lineage lineage) ∧
      ∀ d ∈ after, sharedLength d.lineage lineage ≤ sharedLength e.lineage lineage := by
  induction entries generalizing e with
  | nil => exact absurd h (by simp [closest])
  | cons d rest ih =>
    rw [closest] at h
    cases hrest : closest lineage rest with
    | none =>
      rw [hrest] at h
      obtain rfl : d = e := Option.some.inj h
      rw [closest_eq_none_iff.mp hrest]
      exact ⟨[], [], rfl, by simp, by simp⟩
    | some best =>
      obtain ⟨before, after, hsplit, hbefore, hafter⟩ := ih hrest
      rw [hrest] at h
      by_cases hbetter : sharedLength d.lineage lineage < sharedLength best.lineage lineage
      · obtain rfl : best = e := Option.some.inj ((if_pos hbetter).symm.trans h)
        refine ⟨d :: before, after, ?_, ?_, hafter⟩
        · rw [hsplit, List.cons_append]
        · exact List.forall_mem_cons.mpr ⟨hbetter, hbefore⟩
      · obtain rfl : d = e := Option.some.inj ((if_neg hbetter).symm.trans h)
        refine ⟨[], rest, rfl, by simp, fun c hc => ?_⟩
        have hle : sharedLength c.lineage lineage ≤ sharedLength best.lineage lineage := by
          rw [hsplit, List.mem_append, List.mem_cons] at hc
          rcases hc with hc | rfl | hc
          · exact (hbefore c hc).le
          · exact le_rfl
          · exact hafter c hc
        omega

theorem mem_of_closest {entries : List RegistryEntry} (h : closest lineage entries = some e) :
    e ∈ entries := by
  obtain ⟨before, after, rfl, -, -⟩ := closest_eq_some h
  simp

theorem closest_of_split {before after : List RegistryEntry}
    (hbefore : ∀ d ∈ before, sharedLength d.lineage lineage < sharedLength e.lineage lineage)
    (hafter : ∀ d ∈ after, sharedLength d.lineage lineage ≤ sharedLength e.lineage lineage) :
    closest lineage (before ++ e :: after) = some e := by
  induction before with
  | nil =>
    rw [List.nil_append, closest]
    cases hrest : closest lineage after with
    | none => rfl
    | some best =>
      have hbest := hafter best (mem_of_closest hrest)
      exact if_neg (by omega)
  | cons d before ih =>
    obtain ⟨hd, hrest⟩ := List.forall_mem_cons.mp hbefore
    rw [List.cons_append, closest, ih hrest]
    exact if_pos hd

/-! ## The entries of a class -/

theorem filterMap_findIdxs {α : Type} (p : α → Bool) (items : List α) :
    (items.findIdxs p).filterMap (fun i => items[i]?) = items.filter p := by
  induction items with
  | nil => rfl
  | cons a rest ih =>
    have hrest : (rest.findIdxs p 1).filterMap (fun i => (a :: rest)[i]?) = rest.filter p := by
      rw [List.findIdxs_start, List.filterMap_map, ← ih]
      rfl
    rw [List.findIdxs_cons, Nat.zero_add]
    by_cases h : p a = true
    · rw [if_pos h, List.filterMap_cons, hrest, List.filter_cons_of_pos h]
      rfl
    · rw [if_neg h, hrest, List.filter_cons_of_neg h]

theorem InStep.ofClass_eq (hr : r.InStep) (id : Nat) :
    r.ofClass id = r.entries.filter (·.id == id) := by
  rw [ofClass, hr.positionsOf_eq, filterMap_findIdxs]

theorem InStep.mem_ofClass_iff (hr : r.InStep) {id : Nat} :
    e ∈ r.ofClass id ↔ e ∈ r.entries ∧ e.id = id := by
  rw [hr.ofClass_eq, List.mem_filter, beq_iff_eq]

theorem InStep.get?_of_site_eq (hr : r.InStep) {o : Occurrence} (he : e ∈ r.entries)
    (h : o.site = e.site) : r.get? o = some e := by
  have hsome : (r.get? o).isSome = true :=
    isSome_get?_iff.mpr (List.mem_map.mpr ⟨e, he, h.symm⟩)
  obtain ⟨d, hd⟩ := Option.isSome_iff_exists.mp hsome
  obtain ⟨hdmem, hdsite⟩ := get?_eq_some hd
  rw [hd, List.inj_on_of_nodup_map hr.sites_nodup hdmem he (hdsite.trans h)]

/-! ## References -/

/-- A reference finds an entry just if its class has one, wherever it stands. -/
theorem InStep.isSome_forReference_iff (hr : r.InStep) :
    (r.forReference target lineage).isSome = true ↔ ∃ e ∈ r.entries, e.id = target := by
  rw [Option.isSome_iff_ne_none, forReference, Ne, closest_eq_none_iff,
    List.eq_nil_iff_forall_not_mem, not_forall_not]
  simp only [hr.mem_ofClass_iff]

theorem InStep.mem_of_forReference (hr : r.InStep) (h : r.forReference target lineage = some e) :
    e ∈ r.entries ∧ e.id = target :=
  hr.mem_ofClass_iff.mp (mem_of_closest h)

/-- No entry of its class shares more with the lineage, and none before it as much. -/
def IsClosest (r : Registry) (lineage : List Nat) (e : RegistryEntry) : Prop :=
  ∃ before after common, r.entries = before ++ e :: after ∧ e.Shares lineage common ∧
    (∀ d ∈ r.entries, d.id = e.id → ∀ c, d.Shares lineage c → c.length ≤ common.length) ∧
    ∀ d ∈ before, d.id = e.id → ∀ c, d.Shares lineage c → c.length < common.length

theorem isClosest_iff :
    r.IsClosest lineage e ↔ ∃ before after, r.entries = before ++ e :: after ∧
      (∀ d ∈ r.entries, d.id = e.id →
        sharedLength d.lineage lineage ≤ sharedLength e.lineage lineage) ∧
      ∀ d ∈ before, d.id = e.id →
        sharedLength d.lineage lineage < sharedLength e.lineage lineage := by
  constructor
  · rintro ⟨before, after, common, hsplit, hcommon, hmost, hfirst⟩
    have hlength := hcommon.length_le
    refine ⟨before, after, hsplit, fun d hd hid => ?_, fun d hd hid => ?_⟩
    · obtain ⟨c, hc, hsame⟩ := d.exists_shares lineage
      have := hmost d hd hid c hc
      omega
    · obtain ⟨c, hc, hsame⟩ := d.exists_shares lineage
      have := hfirst d hd hid c hc
      omega
  · rintro ⟨before, after, hsplit, hmost, hfirst⟩
    obtain ⟨common, hcommon, hlength⟩ := e.exists_shares lineage
    refine ⟨before, after, common, hsplit, hcommon, fun d hd hid c hc => ?_, fun d hd hid c hc => ?_⟩
    · have hle := hc.length_le
      have := hmost d hd hid
      omega
    · have hle := hc.length_le
      have := hfirst d hd hid
      omega

theorem InStep.forReference_eq_some_iff (hr : r.InStep) :
    r.forReference target lineage = some e ↔ e.id = target ∧ r.IsClosest lineage e := by
  rw [forReference, hr.ofClass_eq, isClosest_iff]
  constructor
  · intro h
    obtain ⟨before, after, hsplit, hbefore, hafter⟩ := closest_eq_some h
    -- Entries of other classes stand between these, so all entries are cut at the same one.
    obtain ⟨front, back, hentries, hfront, hback⟩ := List.filter_eq_append_iff.mp hsplit
    obtain ⟨gap, rest, rfl, hgap, hid, -⟩ := List.filter_eq_cons_iff.mp hback
    have hid : e.id = target := beq_iff_eq.mp hid
    refine ⟨hid, front ++ gap, rest, ?_, fun d hd hsame => ?_, fun d hd hsame => ?_⟩
    · rw [hentries, List.append_assoc]
    · have hd : d ∈ before ++ e :: after :=
        hsplit ▸ List.mem_filter.mpr ⟨hd, beq_iff_eq.mpr (hsame.trans hid)⟩
      rw [List.mem_append, List.mem_cons] at hd
      rcases hd with hd | rfl | hd
      · exact (hbefore d hd).le
      · exact le_rfl
      · exact hafter d hd
    · rcases List.mem_append.mp hd with hd | hd
      · exact hbefore d (hfront ▸ List.mem_filter.mpr ⟨hd, beq_iff_eq.mpr (hsame.trans hid)⟩)
      · exact absurd (beq_iff_eq.mpr (hsame.trans hid)) (hgap d hd)
  · rintro ⟨rfl, before, after, hsplit, hmost, hfirst⟩
    rw [hsplit, List.filter_append, List.filter_cons, if_pos (beq_self_eq_true e.id)]
    refine closest_of_split (fun d hd => ?_) fun d hd => ?_
    · obtain ⟨hd, hid⟩ := List.mem_filter.mp hd
      exact hfirst d hd (beq_iff_eq.mp hid)
    · obtain ⟨hd, hid⟩ := List.mem_filter.mp hd
      exact hmost d (by simp [hsplit, hd]) (beq_iff_eq.mp hid)

/-- After any calls a reference finds nothing just if its class has no entry; else it finds, of the
entries whose lineages share the longest beginning with that of the class that refers, the one that
was filed first. -/
theorem forReference_first_closest (schema version : String) (calls : List (Forest × List Nat))
    (target : Nat) (lineage : List Nat) :
    let r := calls.foldl (fun r call => resolve call.1 r call.2) (empty schema version)
    (r.forReference target lineage = none ↔ ∀ e ∈ r.entries, e.id ≠ target) ∧
    ∀ e, r.forReference target lineage = some e ↔ e.id = target ∧ r.IsClosest lineage e := by
  intro r
  have hr : r.InStep :=
    List.foldlRecOn calls _ (inStep_empty schema version) fun r hr call _ =>
      hr.foldl_resolve call.1 [call.2]
  refine ⟨?_, fun e => hr.forReference_eq_some_iff⟩
  rw [← Option.not_isSome_iff_eq_none, hr.isSome_forReference_iff]
  push Not
  rfl

end Registry
end SchemaModels

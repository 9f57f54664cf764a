/-
Names do not depend on the order of the roots.

Whatever order the roots are given in, the same occurrences are reached, and the short path of an
occurrence depends only on which others there are.  As long as the slugs of all short paths differ no
claim ever finds its name taken, so every occurrence is named after its short path and after nothing
else: `resolve_perm`.  Where two slugs are equal the occurrence that comes second gets another name,
and then the order counts.
-/
import SchemaModels.Proofs.Bundle
import SchemaModels.Proofs.Registry.Reference
import SchemaModels.Proofs.Registry.ShortPath

namespace SchemaModels

namespace Registry

/-! ## Short paths -/

theorem uniquePath_perm {occurrences occurrences' : List Occurrence}
    (h : occurrences.Perm occurrences') : uniquePath occurrences = uniquePath occurrences' := by
  funext o
  have hothers := h.filter fun p => p.leaf == o.leaf && !p.same o
  have hempty := hothers.isEmpty_eq
  have hpaths := ShortPath.shorten_congr (fun p => (hothers.map (·.path)).mem_iff (a := p)) o.path
  simp only [uniquePath, hempty, hpaths]

def shortPath (occurrences : List Occurrence) (o : Occurrence) : String :=
  ".".intercalate (uniquePath occurrences o)

def shortEntry (r : Registry) (occurrences : List Occurrence) (o : Occurrence) : RegistryEntry :=
  ⟨o.id, o.lineage, o.key, shortPath occurrences o, r.nameOf (shortPath occurrences o)⟩

/-! ## Claims that find their name free -/

theorem claim_of_free {r : Registry} {unique : String} (h : r.nameOf unique ∉ r.taken)
    (full : String) : r.claim unique full = unique := by
  rw [claim, candidates, List.find?_cons_of_pos (by simpa using h), Option.getD_some]

theorem slugify_eq_of_nameOf_eq {r : Registry} {path path' : String}
    (h : r.nameOf path = r.nameOf path') : slugify path = slugify path' := by
  have hlist := congrArg String.toList h
  simp only [nameOf, String.toList_append] at hlist
  exact String.toList_inj.mp (List.append_cancel_left hlist)

theorem addOccurrence_of_free {occurrences : List Occurrence} {r : Registry} {o : Occurrence}
    (hsite : o.site ∉ r.sites) (hfree : r.nameOf (shortPath occurrences o) ∉ r.taken) :
    addOccurrence occurrences r o = r.insert (r.shortEntry occurrences o) := by
  have hclaim : r.claim (".".intercalate (uniquePath occurrences o)) o.key =
      shortPath occurrences o := claim_of_free hfree o.key
  rw [addOccurrence, if_neg (mt isSome_get?_iff.mp hsite), hclaim]
  rfl

/-- Occurrences whose slugs differ from each other and from the taken ones are all named after their
short paths. -/
theorem entries_of_slugs_differ {occurrences items : List Occurrence} {r : Registry}
    (hsites : (items.map Occurrence.site).Nodup)
    (hslugs : (items.map fun o => slugify (shortPath occurrences o)).Nodup)
    (hnew : ∀ o ∈ items, o.site ∉ r.sites)
    (hfree : ∀ o ∈ items, r.nameOf (shortPath occurrences o) ∉ r.taken) :
    (items.foldl (addOccurrence occurrences) r).entries =
      r.entries ++ items.map (r.shortEntry occurrences) := by
  induction items generalizing r with
  | nil => exact (List.append_nil _).symm
  | cons o rest ih =>
    obtain ⟨hsite, hsites⟩ := List.nodup_cons.mp hsites
    obtain ⟨hslug, hslugs⟩ := List.nodup_cons.mp hslugs
    have ho : o.site ∉ r.sites := hnew o List.mem_cons_self
    have hadd := addOccurrence_of_free ho (hfree o List.mem_cons_self)
    have hname : (r.insert (r.shortEntry occurrences o)).nameOf = r.nameOf := rfl
    have hrest := ih (r := r.insert (r.shortEntry occurrences o)) hsites hslugs ?sites ?names
    case sites =>
      intro p hp hin
      rw [sites_insert ho, List.concat_eq_append, List.mem_append, List.mem_singleton] at hin
      rcases hin with hin | hin
      · exact hnew p (List.mem_cons_of_mem o hp) hin
      · exact hsite (List.mem_map.mpr ⟨p, hp, hin⟩)
    case names =>
      intro p hp hin
      rw [hname, insert_of_not_mem ho] at hin
      rcases List.mem_insert_iff.mp hin with heq | hin
      · exact hslug (List.mem_map.mpr ⟨p, hp, slugify_eq_of_nameOf_eq heq⟩)
      · exact hfree p (List.mem_cons_of_mem o hp) hin
    rw [List.foldl_cons, hadd, hrest, insert_of_not_mem ho, List.map_cons, List.append_assoc]
    rfl

theorem get?_resolve_of_slugs_differ {f : Forest} {roots : List Nat} (schema version : String)
    (hslugs : ((f.occurrences roots).map
      fun o => slugify (shortPath (f.occurrences roots) o)).Nodup)
    {o : Occurrence} (ho : o ∈ f.occurrences roots) :
    (resolve f (empty schema version) roots).get? o =
      some ((empty schema version).shortEntry (f.occurrences roots) o) := by
  have hentries : (resolve f (empty schema version) roots).entries =
      (f.occurrences roots).map ((empty schema version).shortEntry (f.occurrences roots)) := by
    refine (entries_of_slugs_differ (Nesting.nodup_map_visit _ _ _) hslugs ?_ ?_).trans
      (List.nil_append _)
    · exact fun _ _ => List.not_mem_nil
    · exact fun _ _ => List.not_mem_nil
  have hr : (resolve f (empty schema version) roots).InStep :=
    (inStep_empty schema version).foldl_resolve f [roots]
  refine hr.get?_of_site_eq ?_ rfl
  rw [hentries]
  exact List.mem_map_of_mem ho

end Registry

/-! ## The order of the roots -/

namespace Forest

theorem listed_perm {f : Forest} {roots roots' : List Nat} (h : roots.Perm roots') :
    (f.listed roots).Perm (f.listed roots') :=
  ((h.filter _).map f.rootOccurrence).flatMap_right _

theorem Linked.occurrences_perm {f : Forest} (hf : f.Linked) {roots roots' : List Nat}
    (h : roots.Perm roots') : (f.occurrences roots).Perm (f.occurrences roots') := by
  rw [List.perm_ext_iff_of_nodup (nodup_occurrences f roots) (nodup_occurrences f roots')]
  intro o
  rw [hf.mem_occurrences_iff, hf.mem_occurrences_iff, (listed_perm h).mem_iff]

end Forest

namespace Registry

/-- Where the slugs of all short paths differ, an occurrence has one entry whatever the order of the
roots, and is named after its short path. -/
theorem resolve_perm {b : Bundle} {m : Model} (hm : b.model = .ok m) (schema version : String)
    {roots roots' : List Nat} (hroots : roots.Perm roots')
    (hslugs : ((m.forest.occurrences roots).map fun o =>
      slugify (shortPath (m.forest.occurrences roots) o)).Nodup) :
    (m.forest.occurrences roots).Perm (m.forest.occurrences roots') ∧
      ∀ o ∈ m.forest.occurrences roots, ∃ e,
        (resolve m.forest (empty schema version) roots).get? o = some e ∧
        (resolve m.forest (empty schema version) roots').get? o = some e ∧
        e.uniquePath = shortPath (m.forest.occurrences roots) o ∧
        e.registryName = schema ++ "." ++ version ++ "." ++ slugify e.uniquePath := by
  have hperm := (Bundle.linked_of_model hm).occurrences_perm hroots
  have hpaths := uniquePath_perm hperm
  refine ⟨hperm, fun o ho => ⟨_, get?_resolve_of_slugs_differ schema version hslugs ho, ?_, rfl, rfl⟩⟩
  have hslugs' : ((m.forest.occurrences roots').map fun p =>
      slugify (shortPath (m.forest.occurrences roots') p)).Nodup := by
    simp only [shortPath, ← hpaths]
    exact (hperm.map _).nodup_iff.mp hslugs
  rw [get?_resolve_of_slugs_differ schema version hslugs' (hperm.mem_iff.mp ho)]
  simp only [shortEntry, shortPath, hpaths]

/-- An order and an invoice with lines, each line with a code of its own. -/
def linesBundle : Bundle where
  classes :=
    [.node { qname := "Order", name := "Order" }
      [.node { qname := "Order.Line", name := "Line" }
        [.node { qname := "Order.Line.Code", name := "Code" } []]],
     .node { qname := "Invoice", name := "Invoice" }
      [.node { qname := "Invoice.Line", name := "Line" }
        [.node { qname := "Invoice.Line.Code", name := "Code" } []]]]

/-- The lines of orders are a root beside the orders, before them or behind them. -/
theorem line_codes_keep_names :
    ∃ m, linesBundle.model = .ok m ∧ [0, 3, 1].Perm [1, 3, 0] ∧
      (m.forest.occurrences [0, 3, 1]).map (shortPath (m.forest.occurrences [0, 3, 1])) =
        ["Order", "Order.Line", "Order.Code", "Invoice", "Invoice.Line", "Invoice.Code", "Line",
          "Line.Code"] ∧
      ((m.forest.occurrences [0, 3, 1]).map fun o =>
        slugify (shortPath (m.forest.occurrences [0, 3, 1]) o)).Nodup ∧
      ∀ o ∈ m.forest.occurrences [0, 3, 1], ∃ e,
        (resolve m.forest (empty "spec" "10") [0, 3, 1]).get? o = some e ∧
        (resolve m.forest (empty "spec" "10") [1, 3, 0]).get? o = some e := by
  obtain ⟨m, hm, hcheck⟩ := linesBundle.exists_model
    (fun m => decide ((m.forest.occurrences [0, 3, 1]).map
        (shortPath (m.forest.occurrences [0, 3, 1])) =
      ["Order", "Order.Line", "Order.Code", "Invoice", "Invoice.Line", "Invoice.Code", "Line",
        "Line.Code"]))
    (by decide +kernel)
  have hpaths := of_decide_eq_true hcheck
  have hslugs : ((m.forest.occurrences [0, 3, 1]).map fun o =>
      slugify (shortPath (m.forest.occurrences [0, 3, 1]) o)).Nodup := by
    have hmap := congrArg (List.map slugify) hpaths
    rw [List.map_map] at hmap
    show ((m.forest.occurrences [0, 3, 1]).map
      (slugify ∘ shortPath (m.forest.occurrences [0, 3, 1]))).Nodup
    rw [hmap]
    decide +kernel
  have hroots : [0, 3, 1].Perm [1, 3, 0] := by decide
  obtain ⟨-, hsame⟩ := resolve_perm hm "spec" "10" hroots hslugs
  refine ⟨m, hm, hroots, hpaths, hslugs, fun o ho => ?_⟩
  obtain ⟨e, hfirst, hsecond, -⟩ := hsame o ho
  exact ⟨e, hfirst, hsecond⟩

end Registry
end SchemaModels

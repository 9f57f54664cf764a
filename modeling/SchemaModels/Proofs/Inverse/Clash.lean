/-
When two keys of an item have one name.

A key is named after its list and the local name of the class that has the list, so lists of two
classes of one name, or of one class on two ways to it, may ask one item for two keys of one name
that lead to different owners.  `nodup_fieldName_iff` says that this is the only way: the names of
the keys of an item differ just if no two occurrences have list fields with that item and one key.
-/
import SchemaModels.Proofs.Inverse.Lists

namespace SchemaModels
namespace Context

/-- The occurrence has a list whose field names the child and the key. -/
def HasList (ctx : Context) (m : Model) (o : Occurrence) (child key : String) : Prop :=
  ∃ c, ctx.IsModel m o c ∧ ∃ a ∈ c.attributes, ∃ used d,
    ((Mapper.mk ctx o c).map used a).1 = .field d ∧ IsListField d child key

variable {m : Model} {ctx : Context}

/-- An item has a key just if the owner to which it leads has a list with that item and key. -/
theorem Gathered.mem_get_inverses_iff_hasList (hctx : ctx.Gathered m) {child : String}
    {key : InverseKey} :
    key ∈ ctx.inverses.get child ↔ ∃ o e, ctx.HasList m o child key.fieldName ∧
      ctx.names.get? o = some e ∧ e.registryName = key.parent := by
  rw [hctx.mem_get_inverses_iff]
  constructor
  · rintro ⟨o, c, e, hmodel, he, a, ha, target, item, htarget, hitem, hchild, rfl⟩
    obtain ⟨d, hd, hlist⟩ := exists_isListField_iff.mpr ⟨target, item, htarget, hitem, hchild, rfl⟩
    exact ⟨o, e, ⟨c, hmodel, a, ha, [], d, hd, hlist⟩, he, rfl⟩
  · rintro ⟨o, e, ⟨c, hmodel, a, ha, used, d, hd, hlist⟩, he, hparent⟩
    obtain ⟨target, item, htarget, hitem, hchild, hkey⟩ :=
      exists_isListField_iff.mp ⟨d, hd, hlist⟩
    refine ⟨o, c, e, hmodel, he, a, ha, target, item, htarget, hitem, hchild, ?_⟩
    rw [hparent, ← hkey]

theorem Gathered.nodup_get_inverses (hctx : ctx.Gathered m) (child : String) :
    (ctx.inverses.get child).Nodup := by
  rw [hctx.inverses_eq]
  exact InverseSource.nodup_get_collect _ _ child

theorem Gathered.eq_of_registryName_eq (hctx : ctx.Gathered m) {o p : Occurrence}
    {d e : RegistryEntry} (ho : o ∈ ctx.occurrences) (hp : p ∈ ctx.occurrences)
    (hd : ctx.names.get? o = some d) (he : ctx.names.get? p = some e)
    (h : d.registryName = e.registryName) : o = p := by
  obtain ⟨hdmem, hdsite⟩ := Registry.get?_eq_some hd
  obtain ⟨hemem, hesite⟩ := Registry.get?_eq_some he
  have hde : d = e := hctx.inStep.eq_of_registryName_eq hdmem hemem h
  obtain ⟨roots, -, ho⟩ := hctx.mem_occurrences_iff.mp ho
  obtain ⟨roots', -, hp⟩ := hctx.mem_occurrences_iff.mp hp
  refine hctx.linked.eq_of_site_eq (Forest.isOccurrence_of_mem ho) (Forest.isOccurrence_of_mem hp) ?_
  rw [← hdsite, ← hesite, hde]

theorem nodup_fieldName_iff {b : Bundle} {m : Model} {config : Config}
    {texts : String → Option String} {ctx : Context} (hm : b.model = .ok m)
    (hctx : collect m config texts = .ok ctx) (child : String) :
    ((ctx.inverses.get child).map InverseKey.fieldName).Nodup ↔
      ∀ o p key, ctx.HasList m o child key → ctx.HasList m p child key → o = p := by
  have hg : ctx.Gathered m := (gathered_of_collect hm hctx).2
  rw [List.nodup_map_iff_inj_on (hg.nodup_get_inverses child)]
  constructor
  · intro hinj o p key ho hp
    obtain ⟨c, hoc, -⟩ := id ho
    obtain ⟨c', hpc, -⟩ := id hp
    have hoctx := hg.mem_occurrences_iff.mpr hoc.reached
    have hpctx := hg.mem_occurrences_iff.mpr hpc.reached
    obtain ⟨d, hd⟩ := hg.exists_entry hoctx
    obtain ⟨e, he⟩ := hg.exists_entry hpctx
    have hdkey : ⟨d.registryName, key⟩ ∈ ctx.inverses.get child :=
      hg.mem_get_inverses_iff_hasList.mpr ⟨o, d, ho, hd, rfl⟩
    have hekey : ⟨e.registryName, key⟩ ∈ ctx.inverses.get child :=
      hg.mem_get_inverses_iff_hasList.mpr ⟨p, e, hp, he, rfl⟩
    -- The two keys have one name, so they are one key and lead to one owner.
    have hparent := congrArg InverseKey.parent (hinj _ hdkey _ hekey rfl)
    exact hg.eq_of_registryName_eq hoctx hpctx hd he hparent
  · intro hone k hk l hl hname
    obtain ⟨o, d, ho, hd, hdk⟩ := hg.mem_get_inverses_iff_hasList.mp hk
    obtain ⟨p, e, hp, he, hel⟩ := hg.mem_get_inverses_iff_hasList.mp hl
    obtain rfl : o = p := hone o p _ ho (hname ▸ hp)
    obtain rfl : d = e := Option.some.inj (hd.symm.trans he)
    cases k
    cases l
    simp only at hname hdk hel
    rw [← hdk, ← hel, hname]

/-- Two classes of one name, each with a list of the same items. -/
def homonymsBundle : Bundle where
  classes :=
    [.node
      { qname := "a#Owner", name := "Owner",
        attributes := [{ name := "items", maxOccurs := .unbounded, types := [.named "Item"] }] } [],
     .node
      { qname := "b#Owner", name := "Owner",
        attributes := [{ name := "items", maxOccurs := .unbounded, types := [.named "Item"] }] } [],
     .node { qname := "Item", name := "Item" } []]

theorem homonyms_share_key :
    ∃ m ctx, homonymsBundle.model = .ok m ∧ collect m {} (fun _ => none) = .ok ctx ∧
      ctx.inverses.get "spec.10.item" =
        [⟨"spec.10.owner", "spec10_items_Owner_id"⟩, ⟨"spec.10.owner2", "spec10_items_Owner_id"⟩] ∧
      ∃ o p key, o ≠ p ∧ ctx.HasList m o "spec.10.item" key ∧
        ctx.HasList m p "spec.10.item" key := by
  obtain ⟨m, ctx, hm, hctx, hkeys⟩ := exists_collect homonymsBundle {} (fun _ => none)
    (fun _ ctx => ctx.inverses.get "spec.10.item" =
      [⟨"spec.10.owner", "spec10_items_Owner_id"⟩, ⟨"spec.10.owner2", "spec10_items_Owner_id"⟩])
    (by decide +kernel)
  have hkeys := of_decide_eq_true hkeys
  refine ⟨m, ctx, hm, hctx, hkeys, ?_⟩
  by_contra hnone
  push Not at hnone
  have hnodup := (nodup_fieldName_iff hm hctx "spec.10.item").mpr fun o p key ho hp =>
    by_contra fun hne => hnone o p key hne ho hp
  rw [hkeys] at hnodup
  exact absurd hnodup (by decide)

end Context
end SchemaModels

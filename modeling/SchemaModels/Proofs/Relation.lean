/-
Where relations lead, and when they lead to a model that is left out.

A relation leads to the entry that its reference picks.  Whether the target is skipped is decided
twice: the field asks whether its name is skipped below the class that refers to it, the writing of
modules whether its own lineage is.  `skipped_comodel_iff` says where the two part: at a target that
is nested in a class other than the one that refers to it, if an enclosing class is skipped or a
pattern of several segments means the target for its place there.
-/
import SchemaModels.Proofs.Inverse.Lists
import SchemaModels.Proofs.Mapper.Keywords
import SchemaModels.Proofs.Registry.Reference
import SchemaModels.Proofs.Skip

namespace SchemaModels

/-- The registry name of the model that a relation leads to. -/
def FieldDefinition.comodel? (d : FieldDefinition) : Option String :=
  match d.kind with
  | .one2many =>
    match d.positional with
    | .text child :: _ => some child
    | _ => none
  | .many2one =>
    match d.kwargs.get? "comodel_name" with
    | some (.text other) => some other
    | _ => none
  | _ => none

/-! ## The target of a field -/

theorem listTarget_eq_target {f : Forest} {reach : Reach} {rules : SkipRules}
    {parents : List String} {a : Attribute} {qname : String} {target : Nat}
    (htype : a.primaryType = some (.named qname))
    (h : listTarget f reach rules parents a = some target) :
    f.lookup qname = some target ∧ reach.isComplex target = true ∧
      rules.skips (f.nameOf target) parents = false := by
  unfold listTarget at h
  split at h
  · exact absurd h (by simp)
  · simp only [htype] at h
    split at h
    · rename_i id hid
      split at h
      · exact absurd h (by simp)
      · rename_i hkept
        obtain rfl := Option.some.inj h
        simpa [hid] using hkept
    · exact absurd h (by simp)

namespace Mapper

/-- A relation leads to a class that was found by its name, was reached, and is not skipped below
the class that refers to it. -/
theorem map_relation {m : Mapper} {used : List String} {a : Attribute} {d : FieldDefinition}
    (h : (m.map used a).1 = .field d) (hd : d.kind.isRelational = true) :
    ∃ target e, m.ctx.reach.isComplex target = true ∧
      m.ctx.rules.skips (m.ctx.forest.nameOf target) m.parents = false ∧
      m.ctx.names.forReference target m.occurrence.lineage = some e ∧
      d.comodel? = some e.registryName := by
  obtain ⟨label, type, htype, h⟩ := map_eq_field h
  cases type with
  | datatype code =>
    rw [(plainField_kind h).1] at hd
    exact absurd hd (by decide)
  | named qname =>
    rcases relationalField_cases h with h | ⟨target, hkept, ⟨-, h⟩ | ⟨hcomplex, h⟩⟩
    · obtain ⟨target, item, htarget, hitem, rfl⟩ := listField_eq_field h
      obtain ⟨-, hcomplex, hkept⟩ := listTarget_eq_target htype htarget
      exact ⟨target, item, hcomplex, hkept, hitem, rfl⟩
    · obtain ⟨e, -, rfl⟩ := selectionField_eq_field h
      exact nomatch hd
    · obtain ⟨e, he, rfl⟩ := linkField_eq_field h
      refine ⟨target, e, hcomplex, hkept, he, ?_⟩
      rw [FieldDefinition.comodel?, get?_comodel_name]

end Mapper

/-! ## Skipped comodels -/

namespace Context

variable {m : Model} {ctx : Context}

theorem skipped_comodel_iff {b : Bundle} {m : Model} {config : Config}
    {texts : String → Option String} {ctx : Context} (hm : b.model = .ok m)
    (hctx : collect m config texts = .ok ctx) {o : Occurrence} {c : SchemaClass}
    (hmodel : ctx.IsModel m o c) {a : Attribute} {used : List String} {d : FieldDefinition}
    (hd : ((Mapper.mk ctx o c).map used a).1 = .field d) (hrel : d.kind.isRelational = true) :
    ∃ e ∈ ctx.names.entries, d.comodel? = some e.registryName ∧
      (∀ other ∈ ctx.names.entries, other.registryName = e.registryName → other = e) ∧
      ∃ enclosing, e.lineage = enclosing ++ [e.id] ∧
        (ctx.rules.skipsLineage (ctx.forest.lineageNames e.lineage) = true ↔
          enclosing ≠ [] ∧ enclosing ≠ o.lineage ∧
            (ctx.rules.skipsLineage (ctx.forest.lineageNames enclosing) = true ∨
              ∃ p ∈ ctx.rules.patterns,
                p.meansPlace (ctx.forest.nameOf e.id) (ctx.forest.lineageNames enclosing)
                  = true)) := by
  have hg : ctx.Gathered m := (gathered_of_collect hm hctx).2
  obtain ⟨target, e, -, hkept, he, hcomodel⟩ := Mapper.map_relation hd hrel
  obtain ⟨hmem, rfl⟩ := hg.inStep.mem_of_forReference he
  obtain ⟨enclosing, hlineage⟩ := hg.exists_enclosing hmem
  refine ⟨e, hmem, hcomodel, fun other hother => hg.inStep.eq_of_registryName_eq hother hmem,
    enclosing, hlineage, ?_⟩
  have hsplit : ctx.rules.skipsLineage (ctx.forest.lineageNames e.lineage) =
      (ctx.rules.skipsLineage (ctx.forest.lineageNames enclosing) ||
        ctx.rules.skips (ctx.forest.nameOf e.id) (ctx.forest.lineageNames enclosing)) := by
    rw [hlineage, Forest.lineageNames, List.map_append]
    exact SkipRules.skipsLineage_concat _ _
  have howner : ctx.rules.skipsLineage (ctx.forest.lineageNames o.lineage) = false := hmodel.kept
  have hname : ctx.rules.skips (ctx.forest.nameOf e.id) (ctx.forest.lineageNames o.lineage)
      = false := hkept
  obtain ⟨roots, -, ho⟩ := hmodel.reached
  obtain ⟨above, habove⟩ := Forest.exists_enclosing ho
  constructor
  · intro hskipped
    rw [hsplit, Bool.or_eq_true] at hskipped
    refine ⟨?notRoot, ?elsewhere, ?cause⟩
    case notRoot =>
      -- The root above the owner is kept, so no pattern skips all roots.
      rintro rfl
      have hne : ctx.forest.lineageNames o.lineage ≠ [] := by simp [Forest.lineageNames, habove]
      obtain ⟨root, hroot⟩ := SkipRules.exists_kept_root hne howner
      have hkeptRoot := SkipRules.kept_root hname hroot
      rcases hskipped with hnone | hskip
      · exact absurd hnone Bool.false_ne_true
      · rw [Forest.lineageNames, List.map_nil, hkeptRoot] at hskip
        exact absurd hskip (by decide)
    case elsewhere =>
      rintro rfl
      rw [howner, hname] at hskipped
      exact absurd hskipped (by decide)
    case cause =>
      refine hskipped.imp_right fun hskip => ?_
      obtain ⟨p, hp, hmatch | hplace⟩ := SkipRules.skips_iff.mp hskip
      · exact absurd hmatch (SkipRules.not_isMatch_of_kept hname p hp)
      · exact ⟨p, hp, hplace⟩
  · rintro ⟨-, -, henclosing | ⟨p, hp, hplace⟩⟩
    · rw [hsplit, henclosing, Bool.true_or]
    · rw [hsplit, SkipRules.skips_iff.mpr ⟨p, hp, Or.inr hplace⟩, Bool.or_true]

/-- A part that is declared in a class of its own and used by another one. -/
def partBundle : Bundle where
  classes :=
    [.node
      { qname := "Doc", name := "Doc",
        attributes := [{ name := "part", types := [.named "Part"] }] } [],
     .node { qname := "Outer", name := "Outer" } [.node { qname := "Part", name := "Part" } []]]

/-- A model has a link to one that is left out. -/
def LinksToSkipped (ctx : Context) (m : Model) : Prop :=
  ∃ o c, ctx.IsModel m o c ∧ ∃ a ∈ c.attributes, ∃ d,
    ((Mapper.mk ctx o c).map [] a).1 = .field d ∧ d.kind = .many2one ∧
      ∃ e ∈ ctx.names.entries, d.comodel? = some e.registryName ∧
        ctx.rules.skipsLineage (ctx.forest.lineageNames e.lineage) = true

/-- Be the class around the part left out or the part for its place in it, the link stays. -/
theorem link_to_skipped_part :
    (∃ m ctx, partBundle.model = .ok m ∧
      collect m { skip := ["^Outer$"] } (fun _ => none) = .ok ctx ∧ ctx.LinksToSkipped m) ∧
    (∃ m ctx, partBundle.model = .ok m ∧
      collect m { skip := ["^Outer.Part$"] } (fun _ => none) = .ok ctx ∧ ctx.LinksToSkipped m) := by
  suffices hboth : ∀ pattern ∈ ["^Outer$", "^Outer.Part$"], ∃ m ctx, partBundle.model = .ok m ∧
      collect m { skip := [pattern] } (fun _ => none) = .ok ctx ∧ ctx.LinksToSkipped m from
    ⟨hboth _ (by simp), hboth _ (by simp)⟩
  intro pattern hpattern
  let doc : Occurrence := ⟨0, [0], ["Doc"]⟩
  let part : Attribute := { name := "part", types := [.named "Part"] }
  -- The part is nested in the second root, which is not the class that refers to it.
  obtain ⟨m, ctx, hm, hctx, hcheck⟩ := exists_collect partBundle { skip := [pattern] }
    (fun _ => none)
    (fun m ctx => (∃ roots ∈ m.scopes, doc ∈ ctx.forest.occurrences roots) ∧
      ctx.isSkipped doc = false ∧
      (∃ c ∈ ctx.forest.get? 0, c.isComplex = true ∧ part ∈ c.attributes ∧
        ∃ d ∈ ((Mapper.mk ctx doc c).map [] part).1.field?,
          d.kind = .many2one ∧ d.comodel? = some "spec.10.part") ∧
      ∀ e ∈ ctx.names.entries, e.registryName = "spec.10.part" → e.lineage = [1, 2] ∧
        (ctx.rules.skipsLineage (ctx.forest.lineageNames [1]) = true ∨
          ∃ p ∈ ctx.rules.patterns,
            p.meansPlace (ctx.forest.nameOf e.id) (ctx.forest.lineageNames [1]) = true))
    (by
      simp only [List.mem_cons, List.not_mem_nil, or_false] at hpattern
      rcases hpattern with rfl | rfl <;> decide +kernel)
  obtain ⟨hreached, hkept, ⟨c, hc, hcomplex, hpart, d, hfield, hkind, hcomodel⟩, hentry⟩ :=
    of_decide_eq_true hcheck
  have hmodel : ctx.IsModel m doc c := ⟨hreached, hc, hcomplex, hkept⟩
  have hd := Mapping.eq_field_of_field? hfield
  obtain ⟨e, he, hname, -, enclosing, hlineage, hiff⟩ :=
    skipped_comodel_iff hm hctx hmodel hd (by rw [hkind]; rfl)
  obtain ⟨hway, hcause⟩ := hentry e he (Option.some.inj (hname.symm.trans hcomodel))
  have henclosing : enclosing = [1] := by
    rw [hway] at hlineage
    exact (List.append_inj_left' (show [1] ++ [2] = enclosing ++ [e.id] from hlineage) rfl).symm
  rw [henclosing] at hiff
  have hskipped := hiff.mpr ⟨by decide, by decide, hcause⟩
  exact ⟨m, ctx, hm, hctx, doc, c, hmodel, part, hpart, d, hd, hkind, e, he, hname, hskipped⟩

end Context
end SchemaModels

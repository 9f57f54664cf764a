/-
When two enumerations of a module have one constant.

A constant is a unique path in capitals, with underscores for the dots, or the name of the class
where the path is no more than that.  Slugs of unique paths differ, and in small letters the constant
is the slug, so two constants differ.  That needs plain names on the way: a path drops what separates
the words of a name, and a constant does not where it takes the name.
-/
import SchemaModels.Proofs.ClassName.Plain
import SchemaModels.Proofs.Emission.Constants
import SchemaModels.Proofs.Emission.Entries

namespace SchemaModels

open Text

/-! ## Capitals -/

theorem map_toLower_upperAll {text : List Char}
    (h : ∀ c ∈ text, c.isAlphanum = true ∨ c = '_') :
    (upperAll text).map Char.toLower = text.map Char.toLower := by
  have hchar : ∀ c ∈ text, (upper c).map Char.toLower = [c.toLower] := by
    intro c hc
    rcases h c hc with halnum | rfl
    · have hcase : c.toUpper.toLower = c.toLower :=
        forall_isAlphanum (P := fun c => c.toUpper.toLower = c.toLower) (by decide) halnum
      rw [upper, if_pos (toNat_lt_of_isAlphanum halnum), List.map_singleton, hcase]
    · decide
  calc (upperAll text).map Char.toLower
      = text.flatMap fun c => (upper c).map Char.toLower := List.map_flatMap
    _ = text.flatMap fun c => [c.toLower] := List.flatMap_congr hchar
    _ = text.map Char.toLower := List.map_eq_flatMap.symm

theorem isAlphanum_or_dot_of_madeOf {names : List String} {text : String}
    (hnames : ∀ name ∈ names, isPlain name = true) (h : Registry.MadeOf names text) :
    ∀ c ∈ text.toList, c.isAlphanum = true ∨ c = '.' := by
  obtain ⟨segments, digits, hsub, hne, hdigits, rfl⟩ := h
  intro c hc
  rw [String.toList_append, List.mem_append] at hc
  rcases hc with hc | hc
  · have hdotted := List.mem_cons_of_mem '.' hc
    rw [Registry.dot_cons_intercalate hne] at hdotted
    obtain ⟨name, hname, hin⟩ := List.mem_flatMap.mp hdotted
    rcases List.mem_cons.mp hin with rfl | hin
    · exact Or.inr rfl
    · exact Or.inl (isPlain_iff.mp (hnames name (hsub.subset hname)) c hin)
  · exact Or.inl (by simp [Char.isAlphanum, hdigits c hc])

/-- In small letters a constant is the slug of the path it is made from. -/
theorem map_toLower_constant {name path : String} (hname : isPlain name = true)
    (hpath : ∀ c ∈ path.toList, c.isAlphanum = true ∨ c = '.') :
    (capitals (constantBase name path)).toList.map Char.toLower = (slugify path).toList := by
  rw [capitals, slugify, String.toList_ofList, String.toList_ofList, constantBase]
  split
  case isTrue =>
    have hunderscores : ∀ c ∈ path.toList.map fun c => if c = '.' then '_' else c,
        c.isAlphanum = true ∨ c = '_' := by
      intro d hd
      obtain ⟨c, hc, rfl⟩ := List.mem_map.mp hd
      by_cases hdot : c = '.'
      · exact Or.inr (if_pos hdot)
      · rw [if_neg hdot]
        exact Or.inl ((hpath c hc).resolve_right hdot)
    have hslug : ∀ c ∈ path.toList, (if c = '.' then '_' else c).toLower = slugChar c := by
      intro c hc
      rcases hpath c hc with halnum | rfl
      · have hdot : c ≠ '.' := fun e => absurd (e ▸ halnum) (by decide)
        rw [if_neg hdot, slugChar_eq_toLower halnum]
      · rfl
    rw [String.toList_ofList, map_toLower_upperAll hunderscores, List.map_map]
    exact List.map_congr_left hslug
  case isFalse hdot =>
    split
    case isTrue hplain =>
      rw [hplain, map_slugChar_className hname]
      exact map_toLower_upperAll fun c hc => Or.inl (isPlain_iff.mp hname c hc)
    case isFalse =>
      have halnum : ∀ c ∈ path.toList, c.isAlphanum = true := by
        intro c hc
        refine (hpath c hc).resolve_right fun e => hdot ?_
        rw [List.contains_iff_mem, ← e]
        exact hc
      rw [map_toLower_upperAll fun c hc => Or.inl (halnum c hc)]
      exact List.map_congr_left fun c hc => (slugChar_eq_toLower (halnum c hc)).symm

/-! ## Constants of a module -/

namespace Context

variable {m : Model} {ctx : Context}

/-- All classes around an entry, and its own, have plain names. -/
def HasPlainNames (ctx : Context) (e : RegistryEntry) : Prop :=
  ∀ id ∈ e.lineage, isPlain (ctx.forest.nameOf id) = true

theorem Gathered.map_toLower_constantName (hctx : ctx.Gathered m) {e : RegistryEntry}
    (he : e ∈ ctx.names.entries) (hplain : ctx.HasPlainNames e) :
    (ctx.constantName e).toList.map Char.toLower = (slugify e.uniquePath).toList := by
  obtain ⟨enclosing, hlineage⟩ := hctx.exists_enclosing he
  refine map_toLower_constant (hplain e.id (by simp [hlineage])) ?_
  refine isAlphanum_or_dot_of_madeOf ?_ (hctx.madeOf_uniquePath he)
  intro name hname
  obtain ⟨id, hid, rfl⟩ := List.mem_map.mp hname
  exact isPlain_className (hplain id hid)

theorem Gathered.eq_of_constantName_eq (hctx : ctx.Gathered m) {d e : RegistryEntry}
    (hd : d ∈ ctx.names.entries) (he : e ∈ ctx.names.entries) (hdplain : ctx.HasPlainNames d)
    (heplain : ctx.HasPlainNames e) (h : ctx.constantName d = ctx.constantName e) : d = e := by
  refine hctx.eq_of_slugify_eq hd he (String.toList_inj.mp ?_)
  rw [← hctx.map_toLower_constantName hd hdplain, h, hctx.map_toLower_constantName he heplain]

/-- The constants of the enumerations that a module keeps differ. -/
def ConstantsDiffer (ctx : Context) (roots : List Nat) : Prop :=
  ∀ d ∈ ctx.enumEntries roots, ∀ e ∈ ctx.enumEntries roots,
    ctx.constantName d = ctx.constantName e → d = e

theorem Gathered.map_constant_enumBlocks_iff (hctx : ctx.Gathered m) {module : String}
    {roots : List Nat} (hmodule : (module, roots) ∈ ctx.modules) :
    (ctx.enumBlocks roots).map (·.constant) = (ctx.enumEntries roots).map ctx.constantName ↔
      ctx.ConstantsDiffer roots := by
  have hnodup : (ctx.enumEntries roots).Nodup := hctx.nodup_keptEntries hmodule _
  rw [map_constant_enumBlocks, FirstMet.eraseDups_eq_self_iff, List.nodup_map_iff_inj_on hnodup]
  rfl

theorem exists_entry_of_mem_enumBlocks {roots : List Nat} {block : EnumBlock}
    (h : block ∈ ctx.enumBlocks roots) :
    ∃ e ∈ ctx.enumEntries roots, ∃ c, ctx.forest.get? e.id = some c ∧
      block = ctx.enumBlock e c := by
  obtain ⟨⟨e, c⟩, hpair, rfl⟩ := List.mem_map.mp h
  obtain ⟨o, ho, hoe⟩ := List.mem_filterMap.mp (FirstMet.mem_of_mem_eraseDupsBy hpair)
  split at hoe
  · rename_i d c' hd hc
    obtain ⟨rfl, rfl⟩ := Prod.mk.inj (Option.some.inj hoe)
    have hid : d.id = o.id := congrArg Prod.fst (Registry.get?_eq_some hd).2
    exact ⟨d, mem_entriesOf_iff.mpr ⟨o, ho, hd⟩, c', hid ▸ hc, rfl⟩
  · exact absurd hoe (by simp)

/-- Where constants differ, the block under the constant of an enumeration has its values. -/
theorem ConstantsDiffer.own_block {roots : List Nat} (h : ctx.ConstantsDiffer roots)
    {e : RegistryEntry} (he : e ∈ ctx.enumEntries roots) :
    ∃ c, ctx.forest.get? e.id = some c ∧ ctx.enumBlock e c ∈ ctx.enumBlocks roots ∧
      ∀ block ∈ ctx.enumBlocks roots, block.constant = ctx.constantName e →
        block = ctx.enumBlock e c := by
  obtain ⟨o, ho, hoe⟩ := mem_entriesOf_iff.mp he
  obtain ⟨hkept, hsimple⟩ := List.mem_filter.mp ho
  obtain ⟨c, hc⟩ := exists_class_of_mem_keptOf hkept
  have hid : e.id = o.id := congrArg Prod.fst (Registry.get?_eq_some hoe).2
  have hown : ∀ block ∈ ctx.enumBlocks roots, block.constant = ctx.constantName e →
      block = ctx.enumBlock e c := by
    intro block hblock hconstant
    obtain ⟨d, hd, c', hc', rfl⟩ := exists_entry_of_mem_enumBlocks hblock
    obtain rfl : d = e := h d hd e he hconstant
    have hclass : c' = c := Option.some.inj (hc'.symm.trans (hid ▸ hc))
    rw [hclass]
  obtain ⟨block, hblock, hconstant⟩ :=
    List.mem_map.mp (constant_mem_enumBlocks hkept hsimple hoe)
  refine ⟨c, hid ▸ hc, ?_, hown⟩
  rw [← hown block hblock hconstant]
  exact hblock

/-- Constants differ where all names are plain.  The enumerations that a module keeps have blocks of
their own just if their constants differ. -/
theorem constants_differ_iff {b : Bundle} {m : Model} {config : Config}
    {texts : String → Option String} {ctx : Context} (hm : b.model = .ok m)
    (hctx : collect m config texts = .ok ctx) {module : String} {roots : List Nat}
    (hmodule : (module, roots) ∈ ctx.modules) :
    (ctx.enumEntries roots).map RegistryEntry.site = (ctx.keptEnums roots).map Occurrence.site ∧
      ((∀ e ∈ ctx.enumEntries roots, ctx.HasPlainNames e) → ctx.ConstantsDiffer roots) ∧
      ∀ source, ctx.emit module roots = some source →
        (source.constants = (ctx.enumEntries roots).map ctx.constantName ↔
          ctx.ConstantsDiffer roots) ∧
        (ctx.ConstantsDiffer roots → ∀ e ∈ ctx.enumEntries roots,
          ∃ c, ctx.forest.get? e.id = some c ∧ ctx.enumBlock e c ∈ source.enums ∧
            ∀ block ∈ source.enums, block.constant = ctx.constantName e →
              block = ctx.enumBlock e c) := by
  have hg : ctx.Gathered m := (gathered_of_collect hm hctx).2
  refine ⟨hg.map_site_keptEntries hmodule _, ?plain, ?written⟩
  case plain =>
    intro hplain d hd e he h
    exact hg.eq_of_constantName_eq (mem_entries_of_mem_entriesOf hd)
      (mem_entries_of_mem_entriesOf he) (hplain d hd) (hplain e he) h
  case written =>
    intro source hemit
    rw [ModuleSource.constants, (emit_eq_some hemit).2.1]
    exact ⟨hg.map_constant_enumBlocks_iff hmodule, fun h e he => h.own_block he⟩

def selectionTree (qname name value : String) : ClassTree :=
  .node { qname, name, kind := .enumeration, values := [⟨value, none⟩] } []

/-- A path of two names, and one name that is the two in one, each of an enumeration. -/
def compoundSelectionBundle : Bundle where
  classes :=
    [.node { qname := "A", name := "A" } [selectionTree "A.Leaf" "Leaf" "a"],
     .node { qname := "B", name := "B" } [selectionTree "B.Leaf" "Leaf" "b"],
     selectionTree "A_Leaf" "A_leaf" "c",
     .node
      { qname := "Doc", name := "Doc",
        attributes := [{ name := "kind", types := [.named "A_Leaf"] }] } []]

/-- The last enumeration has no block, and the selection of its values offers those of the first. -/
theorem compound_shares_constant :
    ∃ m ctx roots source, compoundSelectionBundle.model = .ok m ∧
      collect m {} (fun _ => none) = .ok ctx ∧ ("models", roots) ∈ ctx.modules ∧
      ctx.emit "models" roots = some source ∧
      source.enums.map (fun block => (block.constant, block.items)) =
        [("A_LEAF", [("a", "a")]), ("B_LEAF", [("b", "b")])] ∧
      source.usedConstants = ["A_LEAF"] ∧
      ∃ d ∈ ctx.enumEntries roots, ∃ e ∈ ctx.enumEntries roots,
        ctx.constantName d = ctx.constantName e ∧ d ≠ e := by
  obtain ⟨m, ctx, hm, hctx, hcheck⟩ := exists_collect compoundSelectionBundle {} (fun _ => none)
    (fun _ ctx => ("models", [0, 2, 4, 5]) ∈ ctx.modules ∧
      (ctx.keptEnums [0, 2, 4, 5]).length = 3 ∧
      ∃ source ∈ ctx.emit "models" [0, 2, 4, 5],
        source.enums.map (fun block => (block.constant, block.items)) =
          [("A_LEAF", [("a", "a")]), ("B_LEAF", [("b", "b")])] ∧
        source.usedConstants = ["A_LEAF"])
    (by decide +kernel)
  obtain ⟨hmodule, hkept, source, hemit, hblocks, hused⟩ := of_decide_eq_true hcheck
  refine ⟨m, ctx, [0, 2, 4, 5], source, hm, hctx, hmodule, hemit, hblocks, hused, ?_⟩
  obtain ⟨hsites, -, hwritten⟩ := constants_differ_iff hm hctx hmodule
  by_contra hnone
  push Not at hnone
  -- Were all constants different, there would be a third block.
  have hconstants := (hwritten source hemit).1.mpr hnone
  have hthree := congrArg List.length hsites
  have htwo := congrArg List.length hblocks
  have hsame := congrArg List.length hconstants
  simp only [ModuleSource.constants, List.length_map, List.length_cons, List.length_nil]
    at hthree htwo hsame
  omega

end Context
end SchemaModels

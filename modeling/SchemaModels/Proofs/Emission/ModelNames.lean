/-
When two models of a module have one name.

A model is called after its unique path without the dots.  Unique paths differ, so two models have
one name just if their unique paths differ in the dots alone.  That cannot be where the name of each
class is a single word: a word begins with a capital and has no other one, so a dot belongs before
every capital, and the path can be read back from the name.
-/
import SchemaModels.Proofs.ClassName.Plain
import SchemaModels.Proofs.Emission.Entries

namespace SchemaModels

open Text

/-! ## Reading the dots back -/

/-- A name with a capital in front and no other one. -/
def isOneWord (name : String) : Bool :=
  match name.toList with
  | [] => false
  | c :: rest => isUpper c && rest.all fun d => !isUpper d

/-- A text with a dot before every capital. -/
def redotted (text : List Char) : List Char :=
  text.flatMap fun c => if isUpper c then ['.', c] else [c]

theorem redotted_append (s t : List Char) : redotted (s ++ t) = redotted s ++ redotted t :=
  List.flatMap_append

theorem redotted_of_no_upper {text : List Char} (h : ∀ c ∈ text, isUpper c = false) :
    redotted text = text := by
  induction text with
  | nil => rfl
  | cons c rest ih =>
    have hc := h c List.mem_cons_self
    have hrest := ih fun d hd => h d (List.mem_cons_of_mem c hd)
    rw [← List.singleton_append, redotted_append, hrest]
    simp [redotted, hc]

theorem redotted_word {name : String} (h : isOneWord name = true) :
    redotted name.toList = '.' :: name.toList := by
  unfold isOneWord at h
  split at h
  · exact absurd h (by decide)
  · rename_i c rest hname
    simp only [Bool.and_eq_true, List.all_eq_true, Bool.not_eq_true'] at h
    obtain ⟨hc, hrest⟩ := h
    rw [hname, ← List.singleton_append, redotted_append, redotted_of_no_upper hrest]
    simp [redotted, hc]

theorem redotted_words {names : List String} (h : ∀ name ∈ names, isOneWord name = true) :
    redotted (names.flatMap String.toList) = names.flatMap fun name => '.' :: name.toList := by
  induction names with
  | nil => rfl
  | cons name rest ih =>
    have hname := redotted_word (h name List.mem_cons_self)
    have hrest := ih fun other hother => h other (List.mem_cons_of_mem name hother)
    rw [List.flatMap_cons, redotted_append, hname, hrest, List.flatMap_cons]

theorem filter_dots {names : List String} (hne : names ≠ [])
    (h : ∀ name ∈ names, '.' ∉ name.toList) :
    (".".intercalate names).toList.filter (· ≠ '.') = names.flatMap String.toList := by
  have hnames : ∀ name ∈ names, ('.' :: name.toList).filter (· ≠ '.') = name.toList := by
    intro name hname
    rw [List.filter_cons_of_neg (by decide), List.filter_eq_self]
    intro c hc
    have hdot : c ≠ '.' := fun e => h name hname (e ▸ hc)
    exact decide_eq_true hdot
  calc (".".intercalate names).toList.filter (· ≠ '.')
      = ('.' :: (".".intercalate names).toList).filter (· ≠ '.') :=
        (List.filter_cons_of_neg (by decide)).symm
    _ = names.flatMap fun name => ('.' :: name.toList).filter (· ≠ '.') := by
        rw [Registry.dot_cons_intercalate hne, List.filter_flatMap]
    _ = names.flatMap String.toList := List.flatMap_congr hnames

/-- Where all names are single words, the dots that were taken out of a path can be put back. -/
theorem redotted_undotted {names : List String} {text : String}
    (hwords : ∀ name ∈ names, isOneWord name = true)
    (hdots : ∀ name ∈ names, '.' ∉ name.toList) (h : Registry.MadeOf names text) :
    redotted (text.toList.filter (· ≠ '.')) = '.' :: text.toList := by
  obtain ⟨segments, digits, hsub, hne, hdigits, rfl⟩ := h
  have hsegments : (".".intercalate segments).toList.filter (· ≠ '.') =
      segments.flatMap String.toList :=
    filter_dots hne fun name hname => hdots name (hsub.subset hname)
  have hnumber : digits.toList.filter (· ≠ '.') = digits.toList := by
    rw [List.filter_eq_self]
    intro c hc
    have hdot : c ≠ '.' := fun e => absurd (e ▸ hdigits c hc) (by decide)
    exact decide_eq_true hdot
  have hredigits : redotted digits.toList = digits.toList :=
    redotted_of_no_upper fun c hc => isUpper_of_isDigit (hdigits c hc)
  rw [String.toList_append, List.filter_append, hsegments, hnumber, redotted_append, hredigits,
    redotted_words fun name hname => hwords name (hsub.subset hname), ← Registry.dot_cons_intercalate hne,
    List.cons_append]

/-! ## Names of models -/

namespace Context

variable {m : Model} {ctx : Context}

/-- All classes around an entry, and its own, are named with a single word. -/
def HasOneWordNames (ctx : Context) (e : RegistryEntry) : Prop :=
  ∀ id ∈ e.lineage, isOneWord (ctx.forest.pathName id) = true

theorem Gathered.redotted_modelName (hctx : ctx.Gathered m) {e : RegistryEntry}
    (he : e ∈ ctx.names.entries) (hwords : ctx.HasOneWordNames e) :
    redotted e.modelName.toList = '.' :: e.uniquePath.toList := by
  rw [RegistryEntry.modelName, String.toList_ofList]
  refine redotted_undotted ?_ ?_ (hctx.madeOf_uniquePath he)
  · intro name hname
    obtain ⟨id, hid, rfl⟩ := List.mem_map.mp hname
    exact hwords id hid
  · intro name hname
    obtain ⟨id, -, rfl⟩ := List.mem_map.mp hname
    exact dot_not_mem_className (ctx.forest.nameOf id)

theorem Gathered.uniquePath_eq_of_modelName_eq (hctx : ctx.Gathered m) {d e : RegistryEntry}
    (hd : d ∈ ctx.names.entries) (he : e ∈ ctx.names.entries) (hdwords : ctx.HasOneWordNames d)
    (hewords : ctx.HasOneWordNames e) (h : d.modelName = e.modelName) :
    d.uniquePath = e.uniquePath := by
  have hdotted : '.' :: d.uniquePath.toList = '.' :: e.uniquePath.toList := by
    rw [← hctx.redotted_modelName hd hdwords, h, hctx.redotted_modelName he hewords]
  exact String.toList_inj.mp (List.cons.inj hdotted).2

/-- Two paths that differ in nothing but dots. -/
def SameUndotted (path other : String) : Prop :=
  path.toList.filter (· ≠ '.') = other.toList.filter (· ≠ '.')

theorem modelName_eq_iff {d e : RegistryEntry} :
    d.modelName = e.modelName ↔ SameUndotted d.uniquePath e.uniquePath := by
  rw [RegistryEntry.modelName, RegistryEntry.modelName, String.ofList_inj, SameUndotted]

/-- Every class that a module keeps has a model.  The names of these differ unless two unique paths
differ in the dots alone. -/
theorem modelNames_nodup_iff {b : Bundle} {m : Model} {config : Config}
    {texts : String → Option String} {ctx : Context} (hm : b.model = .ok m)
    (hctx : collect m config texts = .ok ctx) {module : String} {roots : List Nat}
    {source : ModuleSource} (hmodule : (module, roots) ∈ ctx.modules)
    (hemit : ctx.emit module roots = some source) :
    (ctx.modelEntries roots).map RegistryEntry.site =
        (ctx.keptModels roots).map Occurrence.site ∧
      source.models.map (·.name) = (ctx.modelEntries roots).map RegistryEntry.modelName ∧
      ((source.models.map (·.name)).Nodup ↔
        ∀ d ∈ ctx.modelEntries roots, ∀ e ∈ ctx.modelEntries roots,
          SameUndotted d.uniquePath e.uniquePath → d.uniquePath = e.uniquePath) ∧
      ((∀ e ∈ ctx.modelEntries roots, ctx.HasOneWordNames e) →
        (source.models.map (·.name)).Nodup) := by
  have hg : ctx.Gathered m := (gathered_of_collect hm hctx).2
  have hnodup : (ctx.modelEntries roots).Nodup := hg.nodup_keptEntries hmodule _
  have hnames : source.models.map (·.name) =
      (ctx.modelEntries roots).map RegistryEntry.modelName := by
    rw [(emit_eq_some hemit).2.2, map_name_modelBlocks]
  have hiff : (source.models.map (·.name)).Nodup ↔
      ∀ d ∈ ctx.modelEntries roots, ∀ e ∈ ctx.modelEntries roots,
        SameUndotted d.uniquePath e.uniquePath → d.uniquePath = e.uniquePath := by
    rw [hnames, List.nodup_map_iff_inj_on hnodup]
    constructor
    · intro hinj d hd e he h
      exact congrArg RegistryEntry.uniquePath (hinj d hd e he (modelName_eq_iff.mpr h))
    · intro hpaths d hd e he h
      -- One path has one slug, and slugs were handed out once.
      have hpath := hpaths d hd e he (modelName_eq_iff.mp h)
      exact hg.eq_of_slugify_eq (mem_entries_of_mem_entriesOf hd) (mem_entries_of_mem_entriesOf he)
        (congrArg slugify hpath)
  refine ⟨hg.map_site_keptEntries hmodule _, hnames, hiff, fun hwords => hiff.mpr ?_⟩
  intro d hd e he h
  exact hg.uniquePath_eq_of_modelName_eq (mem_entries_of_mem_entriesOf hd)
    (mem_entries_of_mem_entriesOf he) (hwords d hd) (hwords e he) (modelName_eq_iff.mpr h)

/-- A path of two names, and one name that is the two in one. -/
def compoundBundle : Bundle where
  classes :=
    [.node { qname := "A", name := "A" } [.node { qname := "A.Leaf", name := "Leaf" } []],
     .node { qname := "B", name := "B" } [.node { qname := "B.Leaf", name := "Leaf" } []],
     .node { qname := "A_Leaf", name := "A_leaf" } []]

theorem compound_shares_name :
    ∃ m ctx roots source, compoundBundle.model = .ok m ∧
      collect m {} (fun _ => none) = .ok ctx ∧ ("models", roots) ∈ ctx.modules ∧
      ctx.emit "models" roots = some source ∧
      source.models.map (·.name) = ["A", "ALeaf", "B", "BLeaf", "ALeaf"] ∧
      ∃ d ∈ ctx.modelEntries roots, ∃ e ∈ ctx.modelEntries roots,
        SameUndotted d.uniquePath e.uniquePath ∧ d.uniquePath ≠ e.uniquePath := by
  obtain ⟨m, ctx, hm, hctx, hcheck⟩ := exists_collect compoundBundle {} (fun _ => none)
    (fun _ ctx => ("models", [0, 2, 4]) ∈ ctx.modules ∧
      ∃ source ∈ ctx.emit "models" [0, 2, 4],
        source.models.map (·.name) = ["A", "ALeaf", "B", "BLeaf", "ALeaf"])
    (by decide +kernel)
  obtain ⟨hmodule, source, hemit, hnames⟩ := of_decide_eq_true hcheck
  refine ⟨m, ctx, [0, 2, 4], source, hm, hctx, hmodule, hemit, hnames, ?_⟩
  obtain ⟨-, -, hiff, -⟩ := modelNames_nodup_iff hm hctx hmodule hemit
  rw [hnames] at hiff
  by_contra hnone
  push Not at hnone
  exact absurd (hiff.mpr hnone) (by decide)

end Context
end SchemaModels

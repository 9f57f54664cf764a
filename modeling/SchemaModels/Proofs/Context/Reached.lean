/-
The classes that packages and modules reach are those with a kind and those with a name.

The kinds are gathered on one walk over classes and the names on another over occurrences, but a
class has an occurrence just if it is reached.  So wherever a reference stands, it finds a name just
if its class was sorted by kind, and what is said of missing names is said of classes that nothing
reaches.
-/
import SchemaModels.Emission.Notes
import SchemaModels.Proofs.Bundle.Members
import SchemaModels.Proofs.Emission.Entries
import SchemaModels.Proofs.Reach
import SchemaModels.Proofs.Relation

namespace SchemaModels

/-! ## Missing classes -/

namespace Mapper

/-- The references of a mapper find names for the classes that were sorted by kind, and only for
these. -/
def NamesReached (m : Mapper) : Prop :=
  ∀ id lineage, (m.ctx.names.forReference id lineage).isSome =
    (m.ctx.reach.isSimple id || m.ctx.reach.isComplex id)

/-- Of a class it is said that it is missing just if it is not skipped and either unknown or not
reached; of the items of a list it is never said. -/
theorem NamesReached.relationalField_eq_diagnostic_iff {m : Mapper} (hm : m.NamesReached)
    {a : Attribute} {label : Label} {qname name message : String} :
    m.relationalField a label qname = .diagnostic name message ↔
      (name = m.fieldName a ∧ message = m.missingMessage a qname) ∧ a.isList = false ∧
        ∀ target, m.ctx.forest.lookup qname = some target →
          m.ctx.rules.skips (m.ctx.forest.nameOf target) m.parents = false ∧
            (m.ctx.reach.isSimple target || m.ctx.reach.isComplex target) = false := by
  have hname : ∀ target,
      (m.ctx.reach.isSimple target || m.ctx.reach.isComplex target) = true →
        ∃ e, m.ctx.names.forReference target m.occurrence.lineage = some e := fun _ h =>
    Option.isSome_iff_exists.mp ((hm _ _).trans h)
  have hmissing : m.missing a qname = .diagnostic name message ↔
      name = m.fieldName a ∧ message = m.missingMessage a qname := by
    simp [missing, eq_comm]
  by_cases hlist : a.isList = true
  · -- The target of a list is complex, so it has a name.
    have hno : m.listField a label qname ≠ .diagnostic name message := by
      rw [listField]
      split
      · simp
      · rename_i target htarget
        obtain ⟨-, -, written, htype⟩ := listTarget_eq_some htarget
        have hcomplex := (listTarget_eq_target htype htarget).2.1
        obtain ⟨e, he⟩ := hname target (by rw [hcomplex, Bool.or_true])
        rw [he]
        simp
    simp [relationalField, hlist, hno]
  · rw [relationalField, if_neg hlist]
    cases hlookup : m.ctx.forest.lookup qname with
    | none => simp [hmissing, hlist]
    | some target =>
      simp only [Option.some.injEq, forall_eq', Bool.not_eq_true] at hlist ⊢
      cases m.ctx.rules.skips (m.ctx.forest.nameOf target) m.parents with
      | true => simp
      | false =>
        cases hsimple : m.ctx.reach.isSimple target with
        | true =>
          obtain ⟨e, he⟩ := hname target (by rw [hsimple, Bool.true_or])
          simp [selectionField, Context.selectionConstant, he]
        | false =>
          cases hcomplex : m.ctx.reach.isComplex target with
          | true =>
            obtain ⟨e, he⟩ := hname target (by rw [hcomplex, Bool.or_true])
            simp [linkField, he]
          | false => simp [hmissing, hlist]

/-! ## Warnings -/

/-- What the warnings about an attribute begin with. -/
def warningStarts : List String :=
  ["union types ", "token lists ", "map-like attributes ", "attribute without type", "datatype ",
    "no complex type ", "Missing class "]

/-- A note begins like a warning about an attribute. -/
def IsAboutAttribute (n : Note) : Prop := ∃ start ∈ warningStarts, start.toList <+: n.text.toList

theorem isAboutAttribute_of_mem {m : Mapper} {a : Attribute} {n : Note} {start text : String}
    (hn : n ∈ [m.warning a text]) (hstart : start ∈ warningStarts)
    (h : start.toList <+: text.toList) : IsAboutAttribute n := by
  rw [List.mem_singleton.mp hn]
  refine ⟨start, hstart, ?_⟩
  simp only [warning, String.toList_append, List.append_assoc]
  exact h.trans (List.prefix_append _ _)

theorem NamesReached.isAboutAttribute_of_mem_relationalNotes {m : Mapper} (hm : m.NamesReached)
    {a : Attribute} {qname : String} {n : Note} (h : n ∈ m.relationalNotes a qname) :
    IsAboutAttribute n := by
  unfold relationalNotes at h
  split at h
  case h_1 => exact absurd h List.not_mem_nil
  case h_2 =>
    obtain ⟨-, h⟩ := List.mem_ite_nil_right.mp h
    have hstart : "no complex type " ∈ warningStarts := by decide
    refine isAboutAttribute_of_mem (List.mem_ite_nil_left.mp h).2 hstart ?_
    simp only [String.toList_append, List.append_assoc]
    exact List.prefix_append _ _
  case h_3 name message hdiagnostic =>
    obtain ⟨⟨-, rfl⟩, -⟩ := hm.relationalField_eq_diagnostic_iff.mp hdiagnostic
    rw [List.mem_singleton.mp h]
    refine ⟨"Missing class ", by decide, ?_⟩
    change _ <+: ("Missing class " ++ qname ++ "! " ++ m.place a).toList
    simp only [String.toList_append, List.append_assoc]
    exact List.prefix_append _ _

theorem NamesReached.isAboutAttribute_of_mem_notes {m : Mapper} (hm : m.NamesReached)
    {a : Attribute} {n : Note} (h : n ∈ m.notes a) : IsAboutAttribute n := by
  unfold notes at h
  obtain ⟨-, h⟩ := List.mem_ite_nil_left.mp h
  simp only [List.mem_append] at h
  rcases h with ((hunion | htokens) | hmap) | htype
  · have hstart : "union types " ∈ warningStarts := by decide
    exact isAboutAttribute_of_mem (List.mem_ite_nil_right.mp hunion).2 hstart (by decide)
  · have hstart : "token lists " ∈ warningStarts := by decide
    exact isAboutAttribute_of_mem (List.mem_ite_nil_right.mp htokens).2 hstart (by decide)
  · have hstart : "map-like attributes " ∈ warningStarts := by decide
    exact isAboutAttribute_of_mem (List.mem_ite_nil_right.mp hmap).2 hstart (by decide)
  · unfold typeNotes at htype
    split at htype
    case h_1 =>
      have hstart : "attribute without type" ∈ warningStarts := by decide
      exact isAboutAttribute_of_mem htype hstart (by decide)
    case h_2 code _ =>
      have hstart : "datatype " ∈ warningStarts := by decide
      refine isAboutAttribute_of_mem (List.mem_ite_nil_left.mp htype).2 hstart ?_
      simp only [String.toList_append, List.append_assoc]
      exact List.prefix_append _ _
    case h_3 => exact hm.isAboutAttribute_of_mem_relationalNotes htype

/-- The starts are told apart from another text by their first characters. -/
theorem IsAboutAttribute.names_nothing_missing {n : Note} (h : IsAboutAttribute n) :
    ¬"no registry name".toList <+: n.text.toList := by
  obtain ⟨start, hstart, hprefix⟩ := h
  have happart : ∀ start ∈ warningStarts, ¬"no registry name".toList <+: start.toList ∧
      ¬start.toList <+: "no registry name".toList := by decide
  intro hname
  rcases List.prefix_or_prefix_of_prefix hname hprefix with hboth | hboth
  · exact (happart start hstart).1 hboth
  · exact (happart start hstart).2 hboth

end Mapper

namespace Context

variable {m : Model} {ctx : Context}

/-! ## Kinds and names -/

/-- A package or module reaches a class. -/
def IsReached (ctx : Context) (m : Model) (id : Nat) : Prop :=
  ∃ roots ∈ m.scopes, ctx.forest.Reaches roots id

theorem Gathered.mem_ofKind_iff (hctx : ctx.Gathered m) {enumeration : Bool} {id : Nat} :
    id ∈ ctx.reach.ofKind enumeration ↔
      Reach.IsOfKind ctx.forest enumeration id ∧ ctx.IsReached m id := by
  rw [hctx.reach_eq]
  exact Reach.mem_ofKind_foldl_addFrom_iff

theorem Gathered.exists_class (hctx : ctx.Gathered m) {b : Bundle} (hm : b.model = .ok m)
    {id : Nat} (h : ctx.IsReached m id) : ∃ c, ctx.forest.get? id = some c := by
  obtain ⟨roots, hroots, root, hroot, hway⟩ := h
  obtain ⟨group, hgroup, rfl⟩ := List.mem_map.mp hroots
  obtain ⟨hmodules, hpackages⟩ := Bundle.forall_lt_of_model hm
  have hmember : root < m.forest.size := by
    rcases List.mem_append.mp hgroup with hgroup | hgroup
    · exact hpackages group hgroup root hroot
    · exact hmodules group hgroup root hroot
  have hid : id < ctx.forest.size :=
    (Forest.lt_size_iff_of_reflTransGen hway).mp (hctx.size_eq.symm ▸ hmember)
  exact ⟨_, Array.getElem?_eq_getElem hid⟩

/-- Each class that is reached, and no other, is sorted by its kind. -/
theorem Gathered.kind_of_isReached (hctx : ctx.Gathered m) {id : Nat} (h : ctx.IsReached m id)
    {c : SchemaClass} (hc : ctx.forest.get? id = some c) :
    ctx.reach.isSimple id = c.isEnumeration ∧ ctx.reach.isComplex id = !c.isEnumeration := by
  have hkind : ∀ enumeration,
      Reach.IsOfKind ctx.forest enumeration id ↔ c.isEnumeration = enumeration := by
    simp [Reach.IsOfKind, hc]
  constructor
  · rw [Bool.eq_iff_iff, Reach.isSimple_iff, hctx.mem_ofKind_iff, and_iff_left h, hkind]
  · rw [Bool.eq_iff_iff, Reach.isComplex_iff, hctx.mem_ofKind_iff, and_iff_left h, hkind,
      Bool.not_eq_true']

theorem Gathered.no_kind_of_not_isReached (hctx : ctx.Gathered m) {id : Nat}
    (h : ¬ctx.IsReached m id) :
    ctx.reach.isSimple id = false ∧ ctx.reach.isComplex id = false := by
  have hnone : ∀ enumeration, id ∉ ctx.reach.ofKind enumeration := fun _ hid =>
    h (hctx.mem_ofKind_iff.mp hid).2
  exact ⟨Bool.eq_false_iff.mpr fun hsimple => hnone true (Reach.isSimple_iff.mp hsimple),
    Bool.eq_false_iff.mpr fun hcomplex => hnone false (Reach.isComplex_iff.mp hcomplex)⟩

/-- A class has an entry just if it is there and reached. -/
theorem Gathered.exists_entry_iff (hctx : ctx.Gathered m) {id : Nat} :
    (∃ e ∈ ctx.names.entries, e.id = id) ↔ id < ctx.forest.size ∧ ctx.IsReached m id := by
  constructor
  · rintro ⟨e, he, rfl⟩
    rw [hctx.names_eq] at he
    obtain ⟨roots, hroots, o, ho, hsite, -⟩ := Registry.exists_occurrence_of_mem_entries e he
    have hid : o.id = e.id := (congrArg Prod.fst hsite).symm
    obtain ⟨hsize, hreach⟩ := hctx.linked.exists_occurrence_iff.mp ⟨o, ho, hid⟩
    exact ⟨hsize, roots, hroots, hreach⟩
  · rintro ⟨hsize, roots, hroots, hreach⟩
    obtain ⟨o, ho, rfl⟩ := hctx.linked.exists_occurrence_iff.mpr ⟨hsize, hreach⟩
    obtain ⟨e, he⟩ := hctx.exists_entry (hctx.mem_occurrences_iff.mpr ⟨roots, hroots, ho⟩)
    obtain ⟨hmem, hsite⟩ := Registry.get?_eq_some he
    exact ⟨e, hmem, congrArg Prod.fst hsite⟩

/-- A reference finds a name just if the class was sorted by kind, wherever it stands. -/
theorem Gathered.isSome_forReference (hctx : ctx.Gathered m) (id : Nat) (lineage : List Nat) :
    (ctx.names.forReference id lineage).isSome =
      (ctx.reach.isSimple id || ctx.reach.isComplex id) := by
  rw [Bool.eq_iff_iff, hctx.inStep.isSome_forReference_iff, hctx.exists_entry_iff, Bool.or_eq_true]
  constructor
  · rintro ⟨hsize, hreached⟩
    obtain ⟨hsimple, hcomplex⟩ :=
      hctx.kind_of_isReached hreached (Array.getElem?_eq_getElem hsize)
    rw [hsimple, hcomplex, Bool.not_eq_true']
    exact Bool.eq_false_or_eq_true _
  · intro h
    have hkind : ∃ enumeration, id ∈ ctx.reach.ofKind enumeration := by
      rcases h with h | h
      · exact ⟨true, Reach.isSimple_iff.mp h⟩
      · exact ⟨false, Reach.isComplex_iff.mp h⟩
    obtain ⟨enumeration, hid⟩ := hkind
    obtain ⟨⟨c, hc, -⟩, hreached⟩ := hctx.mem_ofKind_iff.mp hid
    exact ⟨Forest.lt_size_of_get? hc, hreached⟩

/-! ## Notes on a module -/

/-- The note is no warning, or one about an attribute. -/
def IsExpected (n : Note) : Prop := n.level = .warn → Mapper.IsAboutAttribute n

theorem isExpected_of_mem_enumsNotes {occurrences : List Occurrence} {defined : List String}
    (hnamed : ∀ o ∈ occurrences, ∃ e, ctx.names.get? o = some e)
    (hknown : ∀ o ∈ occurrences, ∃ c, ctx.forest.get? o.id = some c) :
    ∀ n ∈ ctx.enumsNotes defined occurrences, IsExpected n := by
  induction occurrences generalizing defined with
  | nil => exact fun n h => absurd h List.not_mem_nil
  | cons o rest ih =>
    obtain ⟨⟨e, he⟩, hnamed⟩ := List.forall_mem_cons.mp hnamed
    obtain ⟨⟨c, hc⟩, hknown⟩ := List.forall_mem_cons.mp hknown
    have hrest := fun defined => @ih defined hnamed hknown
    intro n hn
    simp only [enumsNotes, he, hc] at hn
    split at hn
    · exact hrest _ n hn
    · rcases List.mem_append.mp hn with hn | hn
      · obtain ⟨-, hn⟩ := List.mem_ite_nil_left.mp hn
        rw [List.mem_singleton.mp hn]
        exact fun hwarn => absurd hwarn (by simp)
      · exact hrest _ n hn

theorem isExpected_of_mem_attributeNotes {o : Occurrence} {c : SchemaClass}
    (hm : (Mapper.mk ctx o c).NamesReached) {a : Attribute} :
    ∀ n ∈ ctx.attributeNotes ⟨ctx, o, c⟩ a, IsExpected n := by
  intro n hn hwarn
  rcases List.mem_append.mp hn with hn | hn
  · exact hm.isAboutAttribute_of_mem_notes hn
  · obtain ⟨target, -, hn⟩ := List.mem_flatMap.mp hn
    unfold homelessNotes at hn
    split at hn
    · exact absurd hn List.not_mem_nil
    · obtain ⟨-, hn⟩ := List.mem_ite_nil_left.mp hn
      rw [List.mem_singleton.mp hn] at hwarn
      exact absurd hwarn (by simp)

/-- While a module of the context is written, no name is missing. -/
theorem Gathered.isExpected_of_mem_emitNotes (hctx : ctx.Gathered m) {module : String}
    {roots : List Nat} (hmodule : (module, roots) ∈ ctx.modules) :
    ∀ n ∈ ctx.emitNotes module roots, IsExpected n := by
  have hkept : ∀ {p : Occurrence → Bool}, ∀ o ∈ (ctx.keptOf roots).filter p,
      (∃ e, ctx.names.get? o = some e) ∧ ∃ c, ctx.forest.get? o.id = some c := by
    intro p o ho
    have hlisted := (mem_keptOf_iff.mp (List.mem_of_mem_filter ho)).1
    exact ⟨hctx.exists_entry (hctx.mem_occurrences_of_kept hmodule ho),
      (Forest.isOccurrence_of_mem hlisted).exists_get?⟩
  intro n hn
  unfold emitNotes at hn
  split at hn
  · rw [List.mem_singleton.mp hn]
    exact fun hwarn => absurd hwarn (by simp)
  rcases List.mem_append.mp hn with hn | hn
  · exact isExpected_of_mem_enumsNotes (fun o ho => (hkept o ho).1) (fun o ho => (hkept o ho).2)
      n hn
  · obtain ⟨o, ho, hn⟩ := List.mem_flatMap.mp hn
    obtain ⟨⟨e, he⟩, c, hc⟩ := hkept o ho
    simp only [modelNotes, he, hc] at hn
    obtain ⟨a, -, hn⟩ := List.mem_flatMap.mp hn
    exact isExpected_of_mem_attributeNotes hctx.isSome_forReference n hn

/-- A class that a package or module reaches is sorted by its kind, and no other class is;
references to it, and to no other, find a name, wherever they stand.  So a field says that a class is
missing only if the class is unknown or not reached, and no name is missing while a module is
written. -/
theorem reached_classes_have_names {b : Bundle} {m : Model} {config : Config}
    {texts : String → Option String} {ctx : Context} (hm : b.model = .ok m)
    (hctx : collect m config texts = .ok ctx) :
    (∀ id, ctx.IsReached m id → ∃ c, ctx.forest.get? id = some c ∧
        ctx.reach.isSimple id = c.isEnumeration ∧ ctx.reach.isComplex id = !c.isEnumeration) ∧
      (∀ id, ¬ctx.IsReached m id →
        ctx.reach.isSimple id = false ∧ ctx.reach.isComplex id = false) ∧
      (∀ id lineage, (ctx.names.forReference id lineage).isSome =
        (ctx.reach.isSimple id || ctx.reach.isComplex id)) ∧
      (∀ o c a label qname name message,
        (Mapper.mk ctx o c).relationalField a label qname = .diagnostic name message ↔
          (name = (Mapper.mk ctx o c).fieldName a ∧
            message = (Mapper.mk ctx o c).missingMessage a qname) ∧ a.isList = false ∧
          ∀ id, ctx.forest.lookup qname = some id →
            ctx.rules.skips (ctx.forest.nameOf id) (ctx.parents o) = false ∧
              ¬ctx.IsReached m id) ∧
      ∀ module roots, (module, roots) ∈ ctx.modules →
        (∀ o ∈ ctx.forest.occurrences roots, ∃ e, ctx.names.get? o = some e) ∧
          ∀ n ∈ ctx.emitNotes module roots, n.level = .warn →
            ¬"no registry name".toList <+: n.text.toList := by
  have hg : ctx.Gathered m := (gathered_of_collect hm hctx).2
  have hkind : ∀ id, (ctx.reach.isSimple id || ctx.reach.isComplex id) = false ↔
      ¬ctx.IsReached m id := by
    intro id
    constructor
    · rintro hnone hreached
      obtain ⟨c, hc⟩ := hg.exists_class hm hreached
      obtain ⟨hsimple, hcomplex⟩ := hg.kind_of_isReached hreached hc
      rw [hsimple, hcomplex, Bool.or_not_self] at hnone
      exact absurd hnone (by decide)
    · intro hreached
      obtain ⟨hsimple, hcomplex⟩ := hg.no_kind_of_not_isReached hreached
      rw [hsimple, hcomplex, Bool.or_self]
  refine ⟨?kinds, fun _ h => hg.no_kind_of_not_isReached h, hg.isSome_forReference, ?missing,
    ?notes⟩
  case kinds =>
    intro id hreached
    obtain ⟨c, hc⟩ := hg.exists_class hm hreached
    exact ⟨c, hc, hg.kind_of_isReached hreached hc⟩
  case missing =>
    intro o c a label qname name message
    have hnames : (Mapper.mk ctx o c).NamesReached := hg.isSome_forReference
    simp only [← hkind]
    exact hnames.relationalField_eq_diagnostic_iff
  case notes =>
    intro module roots hmodule
    refine ⟨fun o ho => hg.exists_entry (hg.mem_occurrences_of_module hmodule ho),
      fun n hn hwarn => ?_⟩
    exact (hg.isExpected_of_mem_emitNotes hmodule n hn hwarn).names_nothing_missing

/-- A document with a kind, a part that no module holds, and a class that is not there. -/
def partlyHeldBundle : Bundle where
  classes :=
    [.node
      { qname := "Doc", name := "Doc"
        attributes := ["kind", "part", "ghost"].map fun name =>
          { name, types := [.named name] } } [],
     .node { qname := "kind", name := "Kind", kind := .enumeration } [],
     .node { qname := "part", name := "Part" } []]
  modules := [("models", ["Doc", "kind"])]

/-- The part and the ghost are missing, the part because no module reaches it. -/
theorem part_and_ghost_missing :
    ∃ m ctx, partlyHeldBundle.model = .ok m ∧ collect m {} (fun _ => none) = .ok ctx ∧
      ctx.reach = { simple := [1], complex := [0], simpleSet := [1], complexSet := [0] } ∧
      ¬ctx.IsReached m 2 ∧
      (∀ lineage, ctx.names.forReference 2 lineage = none) ∧
      ∃ o c, ∀ qname ∈ ["part", "ghost"], ∃ a ∈ c.attributes, ∀ label,
        (Mapper.mk ctx o c).relationalField a label qname =
          .diagnostic ((Mapper.mk ctx o c).fieldName a)
            ("Missing class " ++ qname ++ "! class: Doc attr: " ++ qname) := by
  let doc : Occurrence := ⟨0, [0], ["Doc"]⟩
  obtain ⟨m, ctx, hm, hctx, hcheck⟩ := exists_collect partlyHeldBundle {} (fun _ => none)
    (fun _ ctx =>
      ctx.reach = { simple := [1], complex := [0], simpleSet := [1], complexSet := [0] } ∧
      ctx.forest.lookup "part" = some 2 ∧
      ctx.forest.lookup "ghost" = none ∧
      ctx.rules.skips (ctx.forest.nameOf 2) (ctx.parents doc) = false ∧
      ∃ c ∈ ctx.forest.get? 0, ∀ qname ∈ ["part", "ghost"], ∃ a ∈ c.attributes,
        a.isList = false ∧ (Mapper.mk ctx doc c).missingMessage a qname =
          "Missing class " ++ qname ++ "! class: Doc attr: " ++ qname)
    (by decide +kernel)
  obtain ⟨hreach, hpart, hghost, hkept, c, -, hfields⟩ := of_decide_eq_true hcheck
  obtain ⟨hkinds, -, hnames, hdiagnostic, -⟩ := reached_classes_have_names hm hctx
  have hnot : ¬ctx.IsReached m 2 := by
    intro hreached
    obtain ⟨part, -, hsimple, hcomplex⟩ := hkinds 2 hreached
    have hsorted : (ctx.reach.isSimple 2 || ctx.reach.isComplex 2) = true := by
      rw [hsimple, hcomplex, Bool.or_not_self]
    rw [hreach] at hsorted
    exact absurd hsorted (by decide)
  have hunnamed : ∀ lineage, ctx.names.forReference 2 lineage = none := fun lineage =>
    Option.not_isSome_iff_eq_none.mp (by rw [hnames, hreach]; decide)
  refine ⟨m, ctx, hm, hctx, hreach, hnot, hunnamed, doc, c, fun qname hqname => ?_⟩
  obtain ⟨a, ha, hlist, hmessage⟩ := hfields qname hqname
  refine ⟨a, ha, fun label => (hdiagnostic _ _ _ _ _ _ _).mpr ⟨⟨rfl, hmessage.symm⟩, hlist, ?_⟩⟩
  intro id hid
  rcases List.mem_pair.mp hqname with rfl | rfl
  · obtain rfl : 2 = id := Option.some.inj (hpart.symm.trans hid)
    exact ⟨hkept, hnot⟩
  · exact absurd (hghost.symm.trans hid) (by simp)

end Context
end SchemaModels

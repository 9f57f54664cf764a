/-
What the used labels change.

Attributes are mapped one after the other, and each leaves its label to those behind it.  The labels
that are used can change the label of a field and nothing else: whether there is a field, its name,
its kind, its arguments and its help come from the attribute alone.  So the attributes of a class
can stand in any order: the fields are the same, labels apart, in the order of their attributes.
-/
import Mathlib.Data.List.Perm.Basic
import SchemaModels.Proofs.Context
import SchemaModels.Proofs.Mapper.Keywords

namespace SchemaModels

/-- Two fields that differ at most in what their label says. -/
structure FieldDefinition.SameButLabel (d e : FieldDefinition) : Prop where
  name : d.name = e.name
  kind : d.kind = e.kind
  positional : d.positional = e.positional
  selection : d.selection = e.selection
  keys : d.kwargs.keys = e.kwargs.keys
  value : ∀ key, key ≠ "string" → d.kwargs.get? key = e.kwargs.get? key

/-- Two attributes become the same, but for the labels of fields. -/
inductive Mapping.SameButLabel : Mapping → Mapping → Prop where
  | field {d e : FieldDefinition} : d.SameButLabel e → SameButLabel (.field d) (.field e)
  | skipped : SameButLabel .skipped .skipped
  | diagnostic (name message : String) :
      SameButLabel (.diagnostic name message) (.diagnostic name message)

namespace Mapper

variable {m : Mapper} {a : Attribute} {label other : Label}

/-! ## One attribute -/

theorem keys_keywords_of_help_eq (h : label.help = other.help) (lead extra : Keywords) :
    (m.keywords a label lead extra).keys = (m.keywords a other lead extra).keys := by
  simp only [keywords, helpKeywords, h, Keywords.keys_append]
  rfl

theorem get?_keywords_of_help_eq (h : label.help = other.help) (lead extra : Keywords)
    {key : String} (hkey : key ≠ "string") :
    (m.keywords a label lead extra).get? key = (m.keywords a other lead extra).get? key := by
  have hlabel : ∀ text, List.lookup key (("string", Literal.text text) :: m.basicKeywords a) =
      List.lookup key (m.basicKeywords a) := fun text => by
    rw [List.lookup_cons, beq_false_of_ne hkey]
  simp only [keywords, helpKeywords, Keywords.get?, List.lookup_append, h, hlabel]

theorem Shape.sameButLabel {kind : FieldKind} {lead extra : Keywords} {positional : List Literal}
    {selection : Option Nat} (hshape : Shape kind lead extra positional selection)
    (h : label.help = other.help) (name : String) :
    Mapping.SameButLabel
      (.field ⟨name, kind, positional, m.setKeywords a label (lead ++ extra) kind, selection⟩)
      (.field ⟨name, kind, positional, m.setKeywords a other (lead ++ extra) kind, selection⟩) := by
  rw [hshape.setKeywords_eq, hshape.setKeywords_eq]
  exact .field {
    name := rfl
    kind := rfl
    positional := rfl
    selection := rfl
    keys := keys_keywords_of_help_eq h lead extra
    value := fun _ hkey => get?_keywords_of_help_eq h lead extra hkey }

theorem plainField_sameButLabel (h : label.help = other.help) (code : String) :
    (m.plainField a label code).SameButLabel (m.plainField a other code) := by
  unfold plainField
  cases hplain : m.plainKind? a code with
  | none => exact .diagnostic _ _
  | some added =>
    obtain ⟨kind, extra⟩ := added
    rcases plainKind?_cases hplain with ⟨hbare, rfl⟩ | ⟨rfl, rfl⟩ | ⟨digits, rfl, rfl⟩
    · exact (Shape.bare hbare).sameButLabel h _
    · exact (Shape.money _).sameButLabel h _
    · exact (Shape.number _).sameButLabel h _

theorem listField_sameButLabel (h : label.help = other.help) (qname : String) :
    (m.listField a label qname).SameButLabel (m.listField a other qname) := by
  unfold listField
  cases listTarget m.ctx.forest m.ctx.reach m.ctx.rules m.parents a with
  | none => exact .skipped
  | some target =>
    dsimp only
    cases m.ctx.names.forReference target m.occurrence.lineage with
    | none => exact .diagnostic _ _
    | some item => exact (Shape.list _ _).sameButLabel h _

theorem selectionField_sameButLabel (h : label.help = other.help) (qname : String)
    (target : Nat) :
    (m.selectionField a label qname target).SameButLabel
      (m.selectionField a other qname target) := by
  unfold selectionField
  cases m.ctx.selectionConstant target m.occurrence.lineage with
  | none => exact .diagnostic _ _
  | some constant => exact (Shape.choice _ _).sameButLabel h _

theorem linkField_sameButLabel (h : label.help = other.help) (qname : String) (target : Nat) :
    (m.linkField a label qname target).SameButLabel (m.linkField a other qname target) := by
  unfold linkField
  cases m.ctx.names.forReference target m.occurrence.lineage with
  | none => exact .diagnostic _ _
  | some e => exact (Shape.link _).sameButLabel h _

theorem relationalField_sameButLabel (h : label.help = other.help) (qname : String) :
    (m.relationalField a label qname).SameButLabel (m.relationalField a other qname) := by
  unfold relationalField
  by_cases hlist : a.isList = true
  · rw [if_pos hlist, if_pos hlist]
    exact listField_sameButLabel h qname
  rw [if_neg hlist, if_neg hlist]
  cases m.ctx.forest.lookup qname with
  | none => exact .diagnostic _ _
  | some target =>
    show Mapping.SameButLabel (if _ then _ else _) (if _ then _ else _)
    split
    · exact .skipped
    split
    · exact selectionField_sameButLabel h qname target
    split
    · exact linkField_sameButLabel h qname target
    · exact .diagnostic _ _

theorem typedField_sameButLabel (h : label.help = other.help) (type : TypeReference) :
    (m.typedField a label type).SameButLabel (m.typedField a other type) := by
  cases type with
  | datatype code => exact plainField_sameButLabel h code
  | named qname => exact relationalField_sameButLabel h qname

/-- The help of a label does not depend on the used labels, and so nothing but the label does. -/
theorem map_sameButLabel (m : Mapper) (used others : List String) (a : Attribute) :
    (m.map used a).1.SameButLabel (m.map others a).1 := by
  by_cases hskip : m.isSkipped a = true
  · rw [map, map, if_pos hskip, if_pos hskip]
    exact .skipped
  rw [map, map, if_neg hskip, if_neg hskip]
  cases a.primaryType with
  | none => exact .diagnostic _ _
  | some type =>
    have hhelp : (Label.extract m.ctx.config.labels.options used a.name a.documentation).help =
        (Label.extract m.ctx.config.labels.options others a.name a.documentation).help := rfl
    exact typedField_sameButLabel hhelp type

/-- The label that is proposed does not depend on the used labels either; they decide how it is told
apart from them. -/
theorem get?_string_of_map {used : List String} {d : FieldDefinition}
    (h : (m.map used a).1 = .field d) :
    d.kwargs.get? "string" = some (.text (Label.distinguish used a.name
      (Label.propose m.ctx.config.labels.options a.name a.documentation).text
      m.ctx.config.labels.options.maxLength)) := by
  unfold map at h
  split at h
  · exact absurd h (by simp)
  split at h
  · exact absurd h (by simp)
  · obtain ⟨lead, extra, hkwargs, hshape⟩ := shape_of_typedField h
    have hlead : List.lookup "string" lead = none := hshape.get?_string_lead
    rw [hkwargs, keywords]
    simp only [Keywords.get?, List.append_assoc, List.cons_append, List.lookup_append, hlead,
      List.lookup_cons_self, Option.none_or]
    rfl

/-! ## All attributes of a class -/

/-- The attribute can become this, for some used labels. -/
def CanBecome (m : Mapper) (a : Attribute) (mapping : Mapping) : Prop :=
  ∃ used, mapping = (m.map used a).1

theorem forall₂_canBecome (m : Mapper) (used : List String) (attributes : List Attribute) :
    List.Forall₂ m.CanBecome attributes (m.mapFrom used attributes) := by
  induction attributes generalizing used with
  | nil => exact .nil
  | cons a rest ih => exact .cons ⟨used, rfl⟩ (ih _)

theorem sameButLabel_of_canBecome {attributes : List Attribute} {mappings others : List Mapping}
    (h : List.Forall₂ m.CanBecome attributes mappings)
    (h' : List.Forall₂ m.CanBecome attributes others) :
    List.Forall₂ Mapping.SameButLabel mappings others := by
  induction h generalizing others with
  | nil =>
    cases h'
    exact .nil
  | cons ha _ ih =>
    cases h' with
    | cons ha' hrest =>
      obtain ⟨used, rfl⟩ := ha
      obtain ⟨used', rfl⟩ := ha'
      exact .cons (m.map_sameButLabel used used' _) (ih hrest)

/-- However the attributes stand, what they become can be brought into their order. -/
theorem exists_perm_mapFrom (m : Mapper) (used others : List String)
    {attributes reordered : List Attribute} (h : reordered.Perm attributes) :
    ∃ mappings, mappings.Perm (m.mapFrom others reordered) ∧
      List.Forall₂ Mapping.SameButLabel (m.mapFrom used attributes) mappings := by
  obtain ⟨mappings, hmapped, hperm⟩ :=
    List.perm_comp_forall₂ h.symm (m.forall₂_canBecome others reordered)
  exact ⟨mappings, hperm, sameButLabel_of_canBecome (m.forall₂_canBecome used attributes) hmapped⟩

end Mapper

/-! ## Classes with other attributes -/

theorem Forest.nameOf_mapAttributes (f : Forest) (g : SchemaClass → List Attribute) (id : Nat) :
    (f.mapAttributes g).nameOf id = f.nameOf id := by
  rw [nameOf, nameOf, get?_mapAttributes, Option.map_map]
  rfl

theorem Forest.lineageNames_mapAttributes (f : Forest) (g : SchemaClass → List Attribute)
    (lineage : List Nat) : (f.mapAttributes g).lineageNames lineage = f.lineageNames lineage :=
  List.map_congr_left fun id _ => f.nameOf_mapAttributes g id

theorem listTarget_mapAttributes (f : Forest) (g : SchemaClass → List Attribute) (reach : Reach)
    (rules : SkipRules) (parents : List String) (a : Attribute) :
    listTarget (f.mapAttributes g) reach rules parents a = listTarget f reach rules parents a := by
  simp only [listTarget, Forest.nameOf_mapAttributes]
  rfl

/-- The context in which the classes have other attributes. -/
def Context.withAttributes (ctx : Context) (g : SchemaClass → List Attribute) : Context :=
  { ctx with forest := ctx.forest.mapAttributes g }

theorem Context.selectionConstant_withAttributes (ctx : Context)
    (g : SchemaClass → List Attribute) (target : Nat) (lineage : List Nat) :
    (ctx.withAttributes g).selectionConstant target lineage =
      ctx.selectionConstant target lineage := by
  have hname : (ctx.withAttributes g).constantName = ctx.constantName := by
    funext e
    rw [constantName, constantName, withAttributes, Forest.nameOf_mapAttributes]
  rw [selectionConstant, hname]
  rfl

namespace Mapper

/-- An attribute is mapped without a look at the attributes of any class. -/
theorem map_withAttributes (ctx : Context) (g : SchemaClass → List Attribute) (o : Occurrence)
    (c : SchemaClass) (attributes : List Attribute) :
    (Mapper.mk (ctx.withAttributes g) o { c with attributes }).map = (Mapper.mk ctx o c).map := by
  let m : Mapper := ⟨ctx, o, c⟩
  let m' : Mapper := ⟨ctx.withAttributes g, o, { c with attributes }⟩
  have hparents : m'.parents = m.parents := ctx.forest.lineageNames_mapAttributes g o.lineage
  have hskipped : ∀ a, m'.isSkipped a = m.isSkipped a := fun a => by
    rw [isSkipped, hparents]
    rfl
  have hlist : ∀ a label qname, m'.listField a label qname = m.listField a label qname := by
    intro a label qname
    rw [listField, hparents, show m'.ctx.forest = ctx.forest.mapAttributes g from rfl,
      listTarget_mapAttributes]
    rfl
  have hselection : ∀ a label qname target,
      m'.selectionField a label qname target = m.selectionField a label qname target := by
    intro a label qname target
    rw [selectionField, show m'.ctx = ctx.withAttributes g from rfl,
      Context.selectionConstant_withAttributes]
    rfl
  have hrelational : ∀ a label qname,
      m'.relationalField a label qname = m.relationalField a label qname := by
    intro a label qname
    have hname : ∀ id, m'.ctx.forest.nameOf id = m.ctx.forest.nameOf id :=
      ctx.forest.nameOf_mapAttributes g
    simp only [relationalField, hlist, hselection, hname, hparents]
    rfl
  have htyped : ∀ a label type, m'.typedField a label type = m.typedField a label type := by
    intro a label type
    cases type with
    | datatype code => rfl
    | named qname => exact hrelational a label qname
  funext used a
  show m'.map used a = m.map used a
  simp only [map, hskipped, htyped]
  rfl

theorem mapFrom_congr {m m' : Mapper} (h : m'.map = m.map) (used : List String)
    (attributes : List Attribute) : m'.mapFrom used attributes = m.mapFrom used attributes := by
  induction attributes generalizing used with
  | nil => rfl
  | cons a rest ih => rw [mapFrom, mapFrom, h, ih]

/-- Whatever labels are used, an attribute becomes the same but for its label, and that is the one
proposed label, told apart from those that are used.  So the attributes of the classes can stand in
any order: what those of a class become is the same, but for the labels, in the order of the
attributes. -/
theorem used_labels_change_labels_alone (ctx : Context) (o : Occurrence) (c : SchemaClass) :
    (∀ a used others, ((Mapper.mk ctx o c).map used a).1.SameButLabel
      ((Mapper.mk ctx o c).map others a).1) ∧
    (∀ a used d, ((Mapper.mk ctx o c).map used a).1 = .field d →
      d.kwargs.get? "string" = some (.text (Label.distinguish used a.name
        (Label.propose ctx.config.labels.options a.name a.documentation).text
        ctx.config.labels.options.maxLength))) ∧
    ∀ reorder : SchemaClass → List Attribute, (reorder c).Perm c.attributes →
      ∃ mappings, mappings.Perm
          (Mapper.mk (ctx.withAttributes reorder) o { c with attributes := reorder c }).mappings ∧
        List.Forall₂ Mapping.SameButLabel (Mapper.mk ctx o c).mappings mappings := by
  let m : Mapper := ⟨ctx, o, c⟩
  refine ⟨fun a used others => m.map_sameButLabel used others a,
    fun a used d hd => get?_string_of_map (m := m) hd, fun reorder hperm => ?_⟩
  obtain ⟨result, hresult, hsame⟩ := m.exists_perm_mapFrom [] [] hperm
  have hmap := map_withAttributes ctx reorder o c (reorder c)
  exact ⟨result, hresult.trans (.of_eq (mapFrom_congr hmap [] (reorder c)).symm), hsame⟩

/-- An element and an attribute of one name. -/
def twinBundle : Bundle where
  classes :=
    [.node
      { qname := "Doc", name := "Doc",
        attributes :=
          [{ name := "code", types := [.datatype "string"] },
           { name := "code", kind := .attr, types := [.datatype "int"] }] } []]

def twinLines : List String :=
  ["spec10_code = fields.Char(string=\"code\", xsd_required=True)",
   "spec10_code = fields.Integer(string=\"code (code)\", xsd_required=True)",
   "spec10_code = fields.Integer(string=\"code\", xsd_required=True)",
   "spec10_code = fields.Char(string=\"code (code)\", xsd_required=True)"]

/-- The second of the two is the one that is told apart, whichever it is. -/
theorem twins_trade_labels :
    let backwards : SchemaClass → List Attribute := fun c => c.attributes.reverse
    ∃ m ctx c, twinBundle.model = .ok m ∧ Context.collect m {} (fun _ => none) = .ok ctx ∧
      ctx.forest.get? 0 = some c ∧
      let first : Mapper := ⟨ctx, ⟨0, [0], ["Doc"]⟩, c⟩
      let second : Mapper :=
        ⟨ctx.withAttributes backwards, ⟨0, [0], ["Doc"]⟩, { c with attributes := backwards c }⟩
      (first.mappings ++ second.mappings).filterMap Mapping.line? = twinLines ∧
      ∃ mappings, mappings.Perm second.mappings ∧
        List.Forall₂ Mapping.SameButLabel first.mappings mappings := by
  intro backwards
  obtain ⟨m, ctx, hm, hctx, hcheck⟩ := Context.exists_collect twinBundle {} (fun _ => none)
    (fun _ ctx => ∃ c ∈ ctx.forest.get? 0,
      ((Mapper.mk ctx ⟨0, [0], ["Doc"]⟩ c).mappings ++
        (Mapper.mk (ctx.withAttributes backwards) ⟨0, [0], ["Doc"]⟩
          { c with attributes := backwards c }).mappings).filterMap Mapping.line? = twinLines)
    (by decide +kernel)
  obtain ⟨c, hc, hlines⟩ := of_decide_eq_true hcheck
  have hsame := (used_labels_change_labels_alone ctx ⟨0, [0], ["Doc"]⟩ c).2.2 backwards
    c.attributes.reverse_perm
  exact ⟨m, ctx, c, hm, hctx, hc, hlines, hsame⟩

end Mapper
end SchemaModels

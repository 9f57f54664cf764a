/-
What a field says about the attribute it was made of.

Labels apart, an attribute is mapped the same whatever came before it.  A list field can only come
from a list that has a target, and a selection only from an attribute whose class is an enumeration
with a name; both lemmas name the registry entry that the field was made from.
-/
import SchemaModels.Mapper
import SchemaModels.Proofs.Inverse.Table

namespace SchemaModels

def Mapping.field? : Mapping → Option FieldDefinition
  | .field d => some d
  | _ => none

theorem Mapping.eq_field_of_field? {mapping : Mapping} {d : FieldDefinition}
    (h : mapping.field? = some d) : mapping = .field d := by
  cases mapping with
  | field definition => rw [Option.some.inj h]
  | skipped => exact absurd h (by simp [field?])
  | diagnostic name message => exact absurd h (by simp [field?])

namespace Mapper

theorem map_eq_field {m : Mapper} {used : List String} {a : Attribute} {d : FieldDefinition}
    (h : (m.map used a).1 = .field d) :
    ∃ label type, a.primaryType = some type ∧ m.typedField a label type = .field d := by
  unfold map at h
  split at h
  · exact absurd h (by simp)
  · split at h
    · exact absurd h (by simp)
    · rename_i type htype
      exact ⟨_, type, htype, h⟩

/-- A plain field has no keywords of its own but the currency or the digits of a number. -/
theorem plainKind?_cases {m : Mapper} {a : Attribute} {code : String} {kind : FieldKind}
    {extra : Keywords} (h : m.plainKind? a code = some (kind, extra)) :
    kind ∈ [.date, .datetime, .integer, .float, .char, .boolean] ∧ extra = [] ∨
      kind = .monetary ∧
        extra = [("currency_field", .text m.ctx.config.numeric.currencyField)] ∨
      ∃ digits, kind = .float ∧ extra = [("digits", digitsLiteral digits)] := by
  simp only [plainKind?] at h
  split at h
  · cases h
    exact Or.inl ⟨by decide, rfl⟩
  split at h
  · cases h
    exact Or.inl ⟨by decide, rfl⟩
  split at h
  · cases h
    exact Or.inl ⟨by decide, rfl⟩
  split at h <;> cases h
  · exact Or.inr (Or.inl ⟨rfl, rfl⟩)
  · exact Or.inr (Or.inr ⟨_, rfl, rfl⟩)
  · exact Or.inl ⟨by decide, rfl⟩
  · exact Or.inl ⟨by decide, rfl⟩
  · exact Or.inl ⟨by decide, rfl⟩

theorem plainField_eq_field {m : Mapper} {a : Attribute} {label : Label} {code : String}
    {d : FieldDefinition} (h : m.plainField a label code = .field d) :
    ∃ kind extra, m.plainKind? a code = some (kind, extra) ∧
      d = ⟨m.fieldName a, kind, [], m.setKeywords a label extra kind, none⟩ := by
  unfold plainField at h
  split at h
  · rename_i kind extra hkind
    exact ⟨kind, extra, hkind, (Mapping.field.inj h).symm⟩
  · exact absurd h (by simp)

theorem plainField_kind {m : Mapper} {a : Attribute} {label : Label} {code : String}
    {d : FieldDefinition} (h : m.plainField a label code = .field d) :
    d.kind.isRelational = false ∧ d.kind ≠ .selection := by
  obtain ⟨kind, extra, hkind, rfl⟩ := plainField_eq_field h
  have hplain : ∀ kind ∈ [FieldKind.date, .datetime, .integer, .float, .char, .boolean],
      kind.isRelational = false ∧ kind ≠ .selection := by decide
  rcases plainKind?_cases hkind with ⟨hkind, -⟩ | ⟨rfl, -⟩ | ⟨-, rfl, -⟩
  · exact hplain kind hkind
  · exact ⟨rfl, nofun⟩
  · exact ⟨rfl, nofun⟩

theorem listField_eq_field {m : Mapper} {a : Attribute} {label : Label} {qname : String}
    {d : FieldDefinition} (h : m.listField a label qname = .field d) :
    ∃ target item,
      listTarget m.ctx.forest m.ctx.reach m.ctx.rules m.parents a = some target ∧
      m.ctx.names.forReference target m.occurrence.lineage = some item ∧
      d = ⟨m.fieldName a, .one2many, [.text item.registryName,
        .text (m.ctx.config.fieldNaming.inverseFieldName a.name m.owner.name)],
        m.setKeywords a label [] .one2many, none⟩ := by
  unfold listField at h
  split at h
  · exact absurd h (by simp)
  · rename_i target htarget
    split at h
    · exact absurd h (by simp [missing])
    · rename_i item hitem
      exact ⟨target, item, htarget, hitem, (Mapping.field.inj h).symm⟩

theorem selectionField_eq_field {m : Mapper} {a : Attribute} {label : Label} {qname : String}
    {target : Nat} {d : FieldDefinition} (h : m.selectionField a label qname target = .field d) :
    ∃ e, m.ctx.names.forReference target m.occurrence.lineage = some e ∧
      d = ⟨m.fieldName a, .selection, [.name (m.ctx.constantName e)],
        m.setKeywords a label [] .selection, some target⟩ := by
  unfold selectionField Context.selectionConstant at h
  cases he : m.ctx.names.forReference target m.occurrence.lineage with
  | none =>
    rw [he] at h
    exact absurd h (by simp [missing])
  | some e =>
    rw [he] at h
    exact ⟨e, rfl, (Mapping.field.inj h).symm⟩

theorem linkField_eq_field {m : Mapper} {a : Attribute} {label : Label} {qname : String}
    {target : Nat} {d : FieldDefinition} (h : m.linkField a label qname target = .field d) :
    ∃ e, m.ctx.names.forReference target m.occurrence.lineage = some e ∧
      d = ⟨m.fieldName a, .many2one, [],
        m.setKeywords a label [("comodel_name", .text e.registryName)] .many2one, none⟩ := by
  unfold linkField at h
  split at h
  · exact absurd h (by simp [missing])
  · rename_i e he
    exact ⟨e, he, (Mapping.field.inj h).symm⟩

/-- The field of a class is that of a list, or the class is kept and the field is that of an
enumeration or a link. -/
theorem relationalField_cases {m : Mapper} {a : Attribute} {label : Label} {qname : String}
    {d : FieldDefinition} (h : m.relationalField a label qname = .field d) :
    m.listField a label qname = .field d ∨
      ∃ target, m.ctx.rules.skips (m.ctx.forest.nameOf target) m.parents = false ∧
        (m.ctx.reach.isSimple target = true ∧ m.selectionField a label qname target = .field d ∨
          m.ctx.reach.isComplex target = true ∧ m.linkField a label qname target = .field d) := by
  unfold relationalField at h
  split at h
  · exact Or.inl h
  · split at h
    · exact absurd h (by simp [missing])
    · rename_i target _
      split at h
      · exact absurd h (by simp)
      · rename_i hkept
        refine Or.inr ⟨target, Bool.eq_false_iff.mpr hkept, ?_⟩
        split at h
        · rename_i hsimple
          exact Or.inl ⟨hsimple, h⟩
        · split at h
          · rename_i hcomplex
            exact Or.inr ⟨hcomplex, h⟩
          · exact absurd h (by simp [missing])

theorem map_one2many {m : Mapper} {used : List String} {a : Attribute} {d : FieldDefinition}
    (h : (m.map used a).1 = .field d) (hd : d.kind = .one2many) :
    ∃ target item,
      listTarget m.ctx.forest m.ctx.reach m.ctx.rules m.parents a = some target ∧
      m.ctx.names.forReference target m.occurrence.lineage = some item ∧
      d.positional = [.text item.registryName,
        .text (m.ctx.config.fieldNaming.inverseFieldName a.name m.owner.name)] := by
  obtain ⟨label, type, -, h⟩ := map_eq_field h
  -- Of all that a type can become, only the field of a list has this constructor.
  cases type with
  | datatype code =>
    have hplain := (plainField_kind h).1
    rw [hd] at hplain
    exact absurd hplain (by decide)
  | named qname =>
    rcases relationalField_cases h with h | ⟨target, -, ⟨-, h⟩ | ⟨-, h⟩⟩
    · obtain ⟨target, item, htarget, hitem, rfl⟩ := listField_eq_field h
      exact ⟨target, item, htarget, hitem, rfl⟩
    · obtain ⟨e, -, rfl⟩ := selectionField_eq_field h
      exact nomatch hd
    · obtain ⟨e, -, rfl⟩ := linkField_eq_field h
      exact nomatch hd

/-- A list with a target becomes a field, whatever labels are used. -/
theorem exists_map_one2many {m : Mapper} {a : Attribute} {target : Nat} {item : RegistryEntry}
    (htarget : listTarget m.ctx.forest m.ctx.reach m.ctx.rules m.parents a = some target)
    (hitem : m.ctx.names.forReference target m.occurrence.lineage = some item)
    (used : List String) :
    ∃ d, (m.map used a).1 = .field d ∧ d.kind = .one2many ∧
      d.positional = [.text item.registryName,
        .text (m.ctx.config.fieldNaming.inverseFieldName a.name m.owner.name)] := by
  obtain ⟨hlist, hskip, qname, htype⟩ := listTarget_eq_some htarget
  have hkept : m.isSkipped a = false := hskip
  let label := Label.extract m.ctx.config.labels.options used a.name a.documentation
  have hfield : ∃ d, m.listField a label qname = .field d := by
    rw [listField, htarget]
    simp only [hitem]
    exact ⟨_, rfl⟩
  obtain ⟨d, hd⟩ := hfield
  obtain ⟨target', item', htarget', hitem', hshape⟩ := listField_eq_field hd
  obtain rfl : target = target' := Option.some.inj (htarget.symm.trans htarget')
  obtain rfl : item = item' := Option.some.inj (hitem.symm.trans hitem')
  refine ⟨d, ?_, by rw [hshape], by rw [hshape]⟩
  rw [map, if_neg (by simp [hkept]), htype]
  simp only [typedField, relationalField, hlist, if_true]
  exact hd

theorem map_selection {m : Mapper} {used : List String} {a : Attribute} {d : FieldDefinition}
    (h : (m.map used a).1 = .field d) (hd : d.kind = .selection) :
    ∃ target e, m.ctx.reach.isSimple target = true ∧
      m.ctx.names.forReference target m.occurrence.lineage = some e ∧
      d.selection = some target ∧ d.positional = [.name (m.ctx.constantName e)] := by
  obtain ⟨label, type, -, h⟩ := map_eq_field h
  cases type with
  | datatype code => exact absurd hd (plainField_kind h).2
  | named qname =>
    rcases relationalField_cases h with h | ⟨target, -, ⟨hsimple, h⟩ | ⟨-, h⟩⟩
    · obtain ⟨target, item, -, -, rfl⟩ := listField_eq_field h
      exact nomatch hd
    · obtain ⟨e, he, rfl⟩ := selectionField_eq_field h
      exact ⟨target, e, hsimple, he, rfl, rfl⟩
    · obtain ⟨e, -, rfl⟩ := linkField_eq_field h
      exact nomatch hd

theorem exists_map_of_mem_mapFrom {m : Mapper} {mapping : Mapping} :
    ∀ {attributes : List Attribute} {used : List String},
      mapping ∈ m.mapFrom used attributes → ∃ a ∈ attributes, ∃ seen, (m.map seen a).1 = mapping
  | a :: rest, used, h => by
    rw [mapFrom, List.mem_cons] at h
    rcases h with rfl | h
    · exact ⟨a, List.mem_cons_self, used, rfl⟩
    · obtain ⟨b, hb, seen, hmap⟩ := exists_map_of_mem_mapFrom h
      exact ⟨b, List.mem_cons_of_mem _ hb, seen, hmap⟩

end Mapper
end SchemaModels

/-
The order of the keywords of a field.

The keywords are set one after the other: what any attribute has, its help, and what the kind of the
field adds; then the other model of a link is moved to the front and the help of a plain field to
the end.  No key is set twice, so this comes to putting each keyword where it belongs, and all
fields have their keywords in one order.
-/
import SchemaModels.Proofs.Context
import SchemaModels.Proofs.Mapper

namespace SchemaModels
namespace Keywords

/-! ## Setting and moving keywords -/

theorem insert_of_not_mem {kwargs : Keywords} {key : String} (h : key ∉ kwargs.keys)
    (value : Literal) : kwargs.insert key value = kwargs ++ [(key, value)] := by
  induction kwargs with
  | nil => rfl
  | cons entry rest ih =>
    obtain ⟨k, v⟩ := entry
    rw [keys, List.map_cons, List.mem_cons, not_or] at h
    rw [insert, if_neg fun hk => h.1 hk.symm, ih h.2, List.cons_append]

theorem insertAll_of_nodup {kwargs more : Keywords} (h : (kwargs ++ more).keys.Nodup) :
    kwargs.insertAll more = kwargs ++ more := by
  induction more generalizing kwargs with
  | nil => exact (List.append_nil kwargs).symm
  | cons entry rest ih =>
    obtain ⟨key, value⟩ := entry
    have hsplit : kwargs ++ (key, value) :: rest = kwargs ++ [(key, value)] ++ rest := by simp
    have hnew : key ∉ kwargs.keys := by
      rw [keys, List.map_append, List.nodup_append] at h
      exact fun hkey => h.2.2 key hkey key (by simp) rfl
    show (kwargs.insert key value).insertAll rest = kwargs ++ (key, value) :: rest
    rw [insert_of_not_mem hnew, ih (hsplit ▸ h), hsplit]

theorem filter_ne_eq_self {kwargs : Keywords} {key : String} (h : key ∉ kwargs.keys) :
    kwargs.filter (·.1 != key) = kwargs := by
  rw [List.filter_eq_self]
  intro entry hentry
  rw [bne_iff_ne]
  rintro rfl
  exact h (List.mem_map_of_mem hentry)

theorem filter_eq_nil {kwargs : Keywords} {key : String} (h : key ∉ kwargs.keys) :
    kwargs.filter (·.1 == key) = [] := by
  rw [List.filter_eq_nil_iff]
  intro entry hentry heq
  rw [beq_iff_eq] at heq
  exact h (heq ▸ List.mem_map_of_mem hentry)

theorem moveToFront_concat {kwargs : Keywords} {key : String} (h : key ∉ kwargs.keys)
    (value : Literal) : (kwargs ++ [(key, value)]).moveToFront key = (key, value) :: kwargs := by
  rw [moveToFront, List.filter_append, List.filter_append, filter_eq_nil h, filter_ne_eq_self h]
  simp

theorem moveToEnd_append {before moved after : Keywords} {key : String}
    (hbefore : key ∉ before.keys) (hmoved : ∀ entry ∈ moved, entry.1 = key)
    (hafter : key ∉ after.keys) :
    (before ++ moved ++ after).moveToEnd key = before ++ after ++ moved := by
  have hout : moved.filter (·.1 != key) = [] := by
    rw [List.filter_eq_nil_iff]
    intro entry hentry
    simp [hmoved entry hentry]
  have hin : moved.filter (·.1 == key) = moved := by
    rw [List.filter_eq_self]
    intro entry hentry
    simp [hmoved entry hentry]
  simp only [moveToEnd, List.filter_append, filter_eq_nil hbefore, filter_eq_nil hafter,
    filter_ne_eq_self hbefore, filter_ne_eq_self hafter, hout, hin, List.append_nil,
    List.nil_append]

theorem keys_append (first last : Keywords) : (first ++ last).keys = first.keys ++ last.keys :=
  List.map_append

theorem keys_toList_sublist {α : Type} (key : String) (literal : α → Literal) (value : Option α) :
    (keys (value.map fun v => (key, literal v)).toList).Sublist [key] := by
  cases value with
  | none => exact List.nil_sublist _
  | some v => exact List.Sublist.refl _

theorem keys_ite_sublist (key : String) (value : Literal) (set : Bool) :
    (keys (if set then [(key, value)] else [])).Sublist [key] := by
  cases set with
  | false => exact List.nil_sublist _
  | true => exact List.Sublist.refl _

end Keywords

namespace Mapper

variable {m : Mapper} {a : Attribute} {label : Label}

/-! ## The keywords of an attribute -/

/-- What any field can have between its label and what its kind adds. -/
def basicKeys : List String := ["xsd_required", "xsd_type", "choice", "xsd_choice_required"]

def basicKeywords (m : Mapper) (a : Attribute) : Keywords :=
  (if a.isRequired then [("xsd_required", .bool true)] else []) ++ factKeywords (m.fact? a)

def helpKeywords (label : Label) : Keywords :=
  (label.help.map fun help => ("help", Literal.text help)).toList

/-- The keywords of a field in their order: `lead`, its label, what is known about it, `extra`, and its
help. -/
def keywords (m : Mapper) (a : Attribute) (label : Label) (lead extra : Keywords) : Keywords :=
  lead ++ ("string", .text label.text) :: m.basicKeywords a ++ extra ++ helpKeywords label

theorem keys_factKeywords_sublist (fact? : Option Fact) :
    (factKeywords fact?).keys.Sublist ["xsd_type", "choice", "xsd_choice_required"] := by
  cases fact? with
  | none => exact List.nil_sublist _
  | some fact =>
    rw [factKeywords, Keywords.keys_append, Keywords.keys_append]
    exact ((Keywords.keys_toList_sublist "xsd_type" .text fact.type).append
      (Keywords.keys_toList_sublist "choice" .text fact.choice)).append
      (Keywords.keys_ite_sublist "xsd_choice_required" (.bool true) fact.choiceRequired)

theorem keys_basicKeywords_sublist (m : Mapper) (a : Attribute) :
    (m.basicKeywords a).keys.Sublist basicKeys := by
  rw [basicKeywords, Keywords.keys_append]
  exact (Keywords.keys_ite_sublist "xsd_required" (.bool true) a.isRequired).append
    (keys_factKeywords_sublist (m.fact? a))

theorem keys_helpKeywords_sublist (label : Label) :
    (helpKeywords label).keys.Sublist ["help"] :=
  Keywords.keys_toList_sublist "help" .text label.help

/-! ## What the kind of a field adds -/

def bareKinds : List FieldKind := [.date, .datetime, .integer, .float, .char, .boolean]

/-- A kind of field with the keywords it adds in front and behind, its positional arguments and the
class whose values it offers. -/
inductive Shape : FieldKind → Keywords → Keywords → List Literal → Option Nat → Prop where
  | bare {kind : FieldKind} : kind ∈ bareKinds → Shape kind [] [] [] none
  | money (currency : Literal) : Shape .monetary [] [("currency_field", currency)] [] none
  | number (digits : Literal) : Shape .float [] [("digits", digits)] [] none
  | list (item key : Literal) : Shape .one2many [] [] [item, key] none
  | choice (constant : Literal) (target : Nat) : Shape .selection [] [] [constant] (some target)
  | link (other : Literal) : Shape .many2one [("comodel_name", other)] [] [] none

/-- The number of positional arguments: the model of the items and their key for a list, and the
constant for a selection. -/
def argumentCount : FieldKind → Nat
  | .one2many => 2
  | .selection => 1
  | _ => 0

/-! ## The order -/

/-- The order in which the keywords of every field stand. -/
def keywordOrder : List String :=
  ["comodel_name", "string", "xsd_required", "xsd_type", "choice", "xsd_choice_required",
   "currency_field", "digits", "help"]

section

variable {kind : FieldKind} {lead extra : Keywords} {positional : List Literal}
  {selection : Option Nat}

theorem Shape.keys_lead_sublist (h : Shape kind lead extra positional selection) :
    lead.keys.Sublist ["comodel_name"] := by
  cases h with
  | link other => exact List.Sublist.refl _
  | _ => exact List.nil_sublist _

theorem Shape.get?_string_lead (h : Shape kind lead extra positional selection) :
    lead.get? "string" = none := by
  cases h with
  | _ => rfl

theorem Shape.keys_extra_sublist (h : Shape kind lead extra positional selection) :
    extra.keys.Sublist ["currency_field", "digits"] := by
  cases h with
  | money currency => exact (List.nil_sublist ["digits"]).cons_cons "currency_field"
  | number digits => exact (List.Sublist.refl ["digits"]).cons "currency_field"
  | _ => exact List.nil_sublist _

theorem Shape.keys_sublist (h : Shape kind lead extra positional selection) (m : Mapper)
    (a : Attribute) (label : Label) :
    (m.keywords a label lead extra).keys.Sublist keywordOrder := by
  have hmiddle : (Keywords.keys (("string", .text label.text) :: m.basicKeywords a)).Sublist
      ("string" :: basicKeys) := (m.keys_basicKeywords_sublist a).cons_cons "string"
  rw [keywords, Keywords.keys_append, Keywords.keys_append, Keywords.keys_append]
  exact ((h.keys_lead_sublist.append hmiddle).append h.keys_extra_sublist).append
    (keys_helpKeywords_sublist label)

theorem Shape.nodup_keys (h : Shape kind lead extra positional selection) (m : Mapper)
    (a : Attribute) (label : Label) : (m.keywords a label lead extra).keys.Nodup :=
  (h.keys_sublist m a label).nodup (by decide)

/-! ## Setting the keywords -/

theorem attributeKeywords_eq (m : Mapper) (a : Attribute) (label : Label) :
    m.attributeKeywords a label =
      ("string", .text label.text) :: m.basicKeywords a ++ helpKeywords label := by
  have hbare : Shape .char [] [] [] none := .bare (by decide)
  have hkeywords : (Keywords.keys ([] ++ m.keywords a label [] [])).Nodup :=
    hbare.nodup_keys m a label
  have hset := Keywords.insertAll_of_nodup hkeywords
  rw [keywords] at hset
  simp only [List.nil_append, List.append_nil] at hset
  rw [← hset, attributeKeywords]
  cases hrequired : a.isRequired <;> cases hhelp : label.help <;>
    simp [Keywords.insertAll, basicKeywords, helpKeywords, hrequired, hhelp]

theorem Shape.insertAll_attributeKeywords (h : Shape kind lead extra positional selection)
    (m : Mapper) (a : Attribute) (label : Label) :
    (m.attributeKeywords a label).insertAll (lead ++ extra) =
      ("string", .text label.text) :: m.basicKeywords a ++ helpKeywords label ++
        (lead ++ extra) := by
  have hnodup := h.nodup_keys m a label
  -- The keys are those of the field in another order, so none of them is set twice.
  have hperm : (Keywords.keys (("string", .text label.text) :: m.basicKeywords a ++
      helpKeywords label ++ (lead ++ extra))).Perm (m.keywords a label lead extra).keys := by
    rw [keywords, List.perm_iff_count]
    intro key
    simp only [Keywords.keys_append, List.count_append]
    omega
  rw [attributeKeywords_eq]
  exact Keywords.insertAll_of_nodup (hperm.nodup_iff.mpr hnodup)

theorem not_mem_keys_named {key : String} (hkey : key ∉ "string" :: basicKeys) (m : Mapper)
    (a : Attribute) (label : Label) :
    key ∉ Keywords.keys (("string", .text label.text) :: m.basicKeywords a) := by
  intro hmem
  exact hkey (((m.keys_basicKeywords_sublist a).cons_cons "string").subset hmem)

theorem Shape.setKeywords_eq (h : Shape kind lead extra positional selection) (m : Mapper)
    (a : Attribute) (label : Label) :
    m.setKeywords a label (lead ++ extra) kind = m.keywords a label lead extra := by
  have hset := h.insertAll_attributeKeywords m a label
  have hhelp : ∀ entry ∈ helpKeywords label, entry.1 = "help" := by
    intro entry hentry
    obtain ⟨help, -, rfl⟩ := Option.map_eq_some_iff.mp (Option.mem_toList.mp hentry)
    rfl
  have hnamed : "help" ∉ Keywords.keys (("string", .text label.text) :: m.basicKeywords a) :=
    not_mem_keys_named (by decide) m a label
  have hextra : "help" ∉ extra.keys := fun hmem =>
    absurd (h.keys_extra_sublist.subset hmem) (by decide)
  rw [setKeywords, hset, keywords]
  cases h with
  | bare hkind =>
    obtain ⟨hlink, hlist⟩ : kind ≠ .many2one ∧ ¬ (kind = .one2many ∨ kind = .selection) := by
      revert kind
      decide
    rw [if_neg hlink, if_neg hlist]
    exact Keywords.moveToEnd_append hnamed hhelp hextra
  | money currency => exact Keywords.moveToEnd_append hnamed hhelp hextra
  | number digits => exact Keywords.moveToEnd_append hnamed hhelp hextra
  | list item key => simp
  | choice constant target => simp
  | link other =>
    have hbefore : "comodel_name" ∉ Keywords.keys
        (("string", .text label.text) :: m.basicKeywords a ++ helpKeywords label) := by
      rw [Keywords.keys_append, List.mem_append, not_or]
      refine ⟨not_mem_keys_named (by decide) m a label, fun hmem => ?_⟩
      exact absurd ((keys_helpKeywords_sublist label).subset hmem) (by decide)
    rw [if_pos rfl, List.append_nil, Keywords.moveToFront_concat hbefore]
    simp

theorem shape_of_typedField {type : TypeReference} {d : FieldDefinition}
    (h : m.typedField a label type = .field d) :
    ∃ lead extra, d.kwargs = m.keywords a label lead extra ∧
      Shape d.kind lead extra d.positional d.selection := by
  have hset : ∀ {kind lead extra positional selection},
      Shape kind lead extra positional selection →
      ∃ lead' extra', m.setKeywords a label (lead ++ extra) kind = m.keywords a label lead' extra' ∧
        Shape kind lead' extra' positional selection :=
    fun hshape => ⟨_, _, hshape.setKeywords_eq m a label, hshape⟩
  cases type with
  | datatype code =>
    obtain ⟨kind, extra, hkind, rfl⟩ := plainField_eq_field h
    rcases plainKind?_cases hkind with ⟨hbare, rfl⟩ | ⟨rfl, rfl⟩ | ⟨digits, rfl, rfl⟩
    · exact hset (.bare hbare)
    · exact hset (.money _)
    · exact hset (.number _)
  | named qname =>
    rcases relationalField_cases h with h | ⟨target, -, ⟨-, h⟩ | ⟨-, h⟩⟩
    · obtain ⟨target, item, -, -, rfl⟩ := listField_eq_field h
      exact hset (.list _ _)
    · obtain ⟨e, -, rfl⟩ := selectionField_eq_field h
      exact hset (.choice _ _)
    · obtain ⟨e, -, rfl⟩ := linkField_eq_field h
      exact hset (.link _)

/-- A link names the model it leads to. -/
theorem get?_comodel_name (m : Mapper) (a : Attribute) (label : Label) (other : Literal) :
    (m.setKeywords a label [("comodel_name", other)] .many2one).get? "comodel_name" =
      some other := by
  have hset := (Shape.link other).setKeywords_eq m a label
  rw [List.append_nil] at hset
  rw [hset]
  rfl

/-- A keyword that not every kind of field can have is one that its kind adds. -/
theorem mem_keys_keywords_iff {key : String} (hkey : key ∉ "string" :: basicKeys)
    (hhelp : key ≠ "help") :
    key ∈ (m.keywords a label lead extra).keys ↔ key ∈ lead.keys ∨ key ∈ extra.keys := by
  have hlast : key ∉ (helpKeywords label).keys := fun hmem =>
    hhelp (List.mem_singleton.mp ((keys_helpKeywords_sublist label).subset hmem))
  rw [keywords, Keywords.keys_append, Keywords.keys_append, Keywords.keys_append]
  simp only [List.mem_append, hlast, not_mem_keys_named hkey m a label, or_false]

/-- What a field has besides the keywords of its attribute tells its kind. -/
theorem Shape.tells_kind (h : Shape kind lead extra positional selection) :
    ("comodel_name" ∈ lead.keys ∨ "comodel_name" ∈ extra.keys ↔ kind = .many2one) ∧
    ("currency_field" ∈ lead.keys ∨ "currency_field" ∈ extra.keys ↔ kind = .monetary) ∧
    ("digits" ∈ lead.keys ∨ "digits" ∈ extra.keys → kind = .float) ∧
    positional.length = argumentCount kind ∧ (selection.isSome = true ↔ kind = .selection) := by
  cases h with
  | bare hkind =>
    revert kind
    decide
  | _ => simp [Keywords.keys, argumentCount]

end

end Mapper

/-- The keywords of a field are in order, and it has the arguments that belong to its kind. -/
structure FieldDefinition.IsInOrder (d : FieldDefinition) : Prop where
  nodup : d.kwargs.keys.Nodup
  sublist : d.kwargs.keys.Sublist Mapper.keywordOrder
  string_mem : "string" ∈ d.kwargs.keys
  comodel_mem_iff : "comodel_name" ∈ d.kwargs.keys ↔ d.kind = .many2one
  currency_mem_iff : "currency_field" ∈ d.kwargs.keys ↔ d.kind = .monetary
  kind_of_digits : "digits" ∈ d.kwargs.keys → d.kind = .float
  length_positional : d.positional.length = Mapper.argumentCount d.kind
  selection_iff : d.selection.isSome = true ↔ d.kind = .selection

/-- Every field that an attribute becomes has its keywords in order, set one after the other and
moved as its kind says. -/
theorem Mapper.isInOrder_of_map {m : Mapper} {used : List String} {a : Attribute}
    {d : FieldDefinition} (h : (m.map used a).1 = .field d) :
    d.IsInOrder ∧ ∃ label own, d.kwargs = m.setKeywords a label own d.kind := by
  obtain ⟨label, type, -, htyped⟩ := map_eq_field h
  obtain ⟨lead, extra, hkwargs, hshape⟩ := shape_of_typedField htyped
  refine ⟨?_, label, lead ++ extra, by rw [hshape.setKeywords_eq, hkwargs]⟩
  have hstring : "string" ∈ d.kwargs.keys := by
    rw [hkwargs, keywords, Keywords.keys_append, Keywords.keys_append, Keywords.keys_append]
    simp [Keywords.keys]
  obtain ⟨hcomodel, hcurrency, hdigits, hpositional, hselection⟩ := hshape.tells_kind
  have hadded : ∀ key, key ∉ "string" :: basicKeys → key ≠ "help" →
      (key ∈ d.kwargs.keys ↔ key ∈ lead.keys ∨ key ∈ extra.keys) := fun key hkey hhelp =>
    hkwargs ▸ mem_keys_keywords_iff hkey hhelp
  exact {
    nodup := hkwargs ▸ hshape.nodup_keys m a label
    sublist := hkwargs ▸ hshape.keys_sublist m a label
    string_mem := hstring
    comodel_mem_iff := (hadded "comodel_name" (by decide) (by decide)).trans hcomodel
    currency_mem_iff := (hadded "currency_field" (by decide) (by decide)).trans hcurrency
    kind_of_digits := fun hmem => hdigits ((hadded "digits" (by decide) (by decide)).mp hmem)
    length_positional := hpositional
    selection_iff := hselection }

/-- The attributes of a bill, each with the keywords of its field: who pays it, its total, a rate and
a note. -/
def billFields : List (Attribute × List String) :=
  [({ name := "payer", documentation := some "Pagador da conta, a pessoa que a recebeu"
      types := [.named "Payer"] },
    ["comodel_name", "string", "xsd_required", "help"]),
   ({ name := "total", documentation := some "Valor total da conta, com todos os tributos"
      types := [.datatype "string"] },
    ["string", "xsd_required", "xsd_type", "currency_field", "help"]),
   ({ name := "rate", documentation := some "Taxa de conversão, se a conta é em outra moeda"
      minOccurs := 0, types := [.datatype "decimal"] },
    ["string", "xsd_type", "choice", "xsd_choice_required", "digits", "help"]),
   ({ name := "note", types := [.datatype "string"] }, ["string", "xsd_required"])]

def billBundle : Bundle where
  classes :=
    [.node
      { qname := "Bill", name := "Bill", location := some "bill.xsd"
        attributes := billFields.map Prod.fst } [],
     .node { qname := "Payer", name := "Payer" } []]

def billSchema : String :=
  "<schema><complexType name=\"Bill\"><element name=\"total\" type=\"TDec_1302\"/>" ++
    "<choice><element name=\"rate\" type=\"TDec_0304\"/></choice></complexType></schema>"

/-- The model of the payer moves to the front, and the helps of the total and of the rate move behind
the currency and the digits. -/
theorem bill_in_order :
    ∃ m ctx c, billBundle.model = .ok m ∧
      Context.collect m {} (fun _ => some billSchema) = .ok ctx ∧ ctx.forest.get? 0 = some c ∧
      ∀ expected ∈ billFields, ∃ d,
        ((Mapper.mk ctx ⟨0, [0], ["Bill"]⟩ c).map [] expected.1).1 = .field d ∧
          d.kwargs.keys = expected.2 ∧ d.IsInOrder := by
  obtain ⟨m, ctx, hm, hctx, hcheck⟩ := Context.exists_collect billBundle {}
    (fun _ => some billSchema)
    (fun _ ctx => ∃ c ∈ ctx.forest.get? 0, ∀ expected ∈ billFields,
      ∃ d ∈ ((Mapper.mk ctx ⟨0, [0], ["Bill"]⟩ c).map [] expected.1).1.field?,
        d.kwargs.keys = expected.2)
    (by decide +kernel)
  obtain ⟨c, hc, hfields⟩ := of_decide_eq_true hcheck
  refine ⟨m, ctx, c, hm, hctx, hc, fun expected hexpected => ?_⟩
  obtain ⟨d, hd, hkeys⟩ := hfields expected hexpected
  have hfield := Mapping.eq_field_of_field? hd
  exact ⟨d, hfield, hkeys, (Mapper.isInOrder_of_map hfield).1⟩

end SchemaModels

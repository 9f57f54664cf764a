/-
The labels that the documentation of a field gives to the values of its enumeration.

The documentation explains one value after the other, as in `A - Ativo; B - Baixado`.  A value is
searched for with the separator behind it, whatever stands before it.  So it is found in the first
value that ends with it, and takes the label of that one: from `11 - Onze; 1 - Um` both values
become `Onze`.  Where no value is the end of an earlier one, each has its own label.
-/
import SchemaModels.Proofs.Context
import SchemaModels.Proofs.ClassName.Plain
import SchemaModels.Proofs.Text.Lines
import SchemaModels.Selection.Doc

namespace SchemaModels

open Text

/-! ## Explanations -/

/-- A value of letters and digits, and a label that no mark of the documentation divides. -/
structure SelectionItem.IsPlain (item : SelectionItem) : Prop where
  value : ∀ c ∈ item.value.toList, c.isAlphanum = true
  label_ne : item.label.toList ≠ []
  trim_label : trim item.label.toList = item.label.toList
  label : ∀ mark ∈ [';', '-', '\n'], mark ∉ item.label.toList

/-- A value with its label, as a documentation explains it. -/
def SelectionItem.explained (item : SelectionItem) : List Char :=
  item.value.toList ++ " - ".toList ++ item.label.toList

/-- The explanations of values, one after the other. -/
def explanations (items : List SelectionItem) : List Char :=
  joinWith "; ".toList (items.map SelectionItem.explained)

def furtherExplanations : List SelectionItem → List Char
  | [] => []
  | next :: rest => "; ".toList ++ explanations (next :: rest)

/-- The first item whose value ends with the given one. -/
def firstEnding (items : List SelectionItem) (value : String) : Option SelectionItem :=
  items.find? fun item => endsWith value.toList item.value.toList

variable {items : List SelectionItem}

theorem explanations_cons (item : SelectionItem) (rest : List SelectionItem) :
    explanations (item :: rest) = item.explained ++ furtherExplanations rest := by
  cases rest with
  | nil => exact (List.append_nil _).symm
  | cons other rest => exact List.append_assoc _ _ _

theorem head?_furtherExplanations (rest : List SelectionItem) :
    ∀ c ∈ (furtherExplanations rest).head?, c = ';' := by
  intro c hc
  cases rest with
  | nil => exact absurd hc (by simp [furtherExplanations])
  | cons other rest => exact (Option.some.inj hc).symm

theorem not_mem_of_isAlphanum {text : List Char} {mark : Char}
    (h : ∀ c ∈ text, c.isAlphanum = true) (hmark : mark.isAlphanum = false) : mark ∉ text := by
  intro hmem
  rw [h mark hmem] at hmark
  exact absurd hmark (by decide)

theorem newline_not_mem_explanations (h : ∀ item ∈ items, item.IsPlain) :
    '\n' ∉ explanations items := by
  induction items with
  | nil => exact List.not_mem_nil
  | cons item rest ih =>
    obtain ⟨hitem, hrest⟩ := List.forall_mem_cons.mp h
    have hvalue : '\n' ∉ item.value.toList := not_mem_of_isAlphanum hitem.value (by decide)
    have hlabel : '\n' ∉ item.label.toList := hitem.label '\n' (by decide)
    have hfurther : '\n' ∉ furtherExplanations rest := by
      cases rest with
      | nil => exact List.not_mem_nil
      | cons other rest =>
        rw [furtherExplanations, List.mem_append, not_or]
        exact ⟨by decide, ih hrest⟩
    rw [explanations_cons, SelectionItem.explained]
    simp only [List.mem_append, not_or]
    exact ⟨⟨⟨hvalue, by decide⟩, hlabel⟩, hfurther⟩

/-! ## Where a value is found -/

theorem suffix_append_iff_of_space {value s t : List Char} (hvalue : ' ' ∉ value)
    (hs : ∀ c ∈ s.getLast?, c = ' ') : value <:+ s ++ t ↔ value <:+ t := by
  refine ⟨fun h => ?_, fun h => h.trans (List.suffix_append s t)⟩
  rcases List.suffix_or_suffix_of_suffix h (List.suffix_append s t) with hshort | ⟨surplus, rfl⟩
  · exact hshort
  -- What the value has besides `t` would be an end of `s`, and hold the space there.
  obtain ⟨start, hstart⟩ := h
  rw [← List.append_assoc, List.append_cancel_right_eq] at hstart
  rcases List.eq_nil_or_concat surplus with rfl | ⟨init, last, rfl⟩
  · exact List.suffix_refl t
  · have hlast : last = ' ' := hs last (by simp [← hstart])
    exact absurd (by simp [hlast]) hvalue

section

variable {value : String} {item : SelectionItem} {s : List Char}

theorem token_eq (value : String) :
    (value ++ " - ").toList = (value.toList ++ [' ']) ++ '-' :: [' '] := by simp

theorem dash_not_mem_token (hvalue : ∀ c ∈ value.toList, c.isAlphanum = true) :
    '-' ∉ value.toList ++ [' '] := by
  have hword : '-' ∉ value.toList := not_mem_of_isAlphanum hvalue (by decide)
  simp [hword]

theorem splitFirst?_explained_found (hvalue : ∀ c ∈ value.toList, c.isAlphanum = true)
    (hitem : item.IsPlain) (hdash : '-' ∉ s) (hends : value.toList <:+ item.value.toList)
    (t : List Char) :
    ∃ before, splitFirst? (value ++ " - ").toList (s ++ (item.explained ++ t)) =
      some (before, item.label.toList ++ t) := by
  obtain ⟨start, hstart⟩ := hends
  have hbefore : '-' ∉ s ++ start := by
    have hown : '-' ∉ item.value.toList := not_mem_of_isAlphanum hitem.value (by decide)
    rw [← hstart, List.mem_append, not_or] at hown
    simp [hdash, hown.1]
  have hwhole : s ++ (item.explained ++ t) =
      s ++ start ++ ((value.toList ++ [' ']) ++ '-' :: [' '] ++ (item.label.toList ++ t)) := by
    rw [SelectionItem.explained, ← hstart]
    simp
  refine ⟨s ++ start, ?_⟩
  rw [token_eq, hwhole]
  exact splitFirst?_around_found hbefore (dash_not_mem_token hvalue)

theorem splitFirst?_explained_missed (hvalue : ∀ c ∈ value.toList, c.isAlphanum = true)
    (hitem : item.IsPlain) (hdash : '-' ∉ s) (hspace : ∀ c ∈ s.getLast?, c = ' ')
    (hends : ¬ value.toList <:+ item.value.toList) (t : List Char) :
    splitFirst? (value ++ " - ").toList (s ++ (item.explained ++ t)) =
      (splitFirst? (value ++ " - ").toList (' ' :: item.label.toList ++ t)).map
        fun (head, tail) => (s ++ item.value.toList ++ [' '] ++ '-' :: head, tail) := by
  have hbefore : '-' ∉ s ++ item.value.toList ++ [' '] := by
    have hown : '-' ∉ item.value.toList := not_mem_of_isAlphanum hitem.value (by decide)
    simp [hdash, hown]
  have hmissed : ¬ value.toList ++ [' '] <:+ s ++ item.value.toList ++ [' '] := by
    have hword : ' ' ∉ value.toList := not_mem_of_isAlphanum hvalue (by decide)
    rw [List.suffix_append_inj_of_length_eq rfl]
    exact fun h => hends ((suffix_append_iff_of_space hword hspace).mp h.1)
  have hwhole : s ++ (item.explained ++ t) =
      (s ++ item.value.toList ++ [' ']) ++ '-' :: (' ' :: item.label.toList ++ t) := by
    simp [SelectionItem.explained]
  rw [token_eq, hwhole]
  exact splitFirst?_around_missed hbefore (dash_not_mem_token hvalue) hmissed

end

/-- A value is found at the end of the first value that ends with it. -/
theorem exists_splitFirst?_explanations {value : String}
    (hvalue : ∀ c ∈ value.toList, c.isAlphanum = true) (h : ∀ item ∈ items, item.IsPlain)
    {first : SelectionItem} (hfirst : firstEnding items value = some first) {s : List Char}
    (hdash : '-' ∉ s) (hspace : ∀ c ∈ s.getLast?, c = ' ') :
    ∃ before rest, splitFirst? (value ++ " - ").toList (s ++ explanations items) =
      some (before, first.label.toList ++ furtherExplanations rest) := by
  -- The search goes from item to item; what is left of one, `s`, ends with a space.
  induction items generalizing s with
  | nil => exact absurd hfirst (by simp [firstEnding])
  | cons item rest ih =>
    obtain ⟨hitem, hrest⟩ := List.forall_mem_cons.mp h
    rw [firstEnding, List.find?_cons] at hfirst
    rw [explanations_cons]
    by_cases hends : value.toList <:+ item.value.toList
    · rw [endsWith_iff.mpr hends] at hfirst
      obtain rfl : item = first := Option.some.inj hfirst
      obtain ⟨before, hfound⟩ := splitFirst?_explained_found hvalue hitem hdash hends
        (furtherExplanations rest)
      exact ⟨before, rest, hfound⟩
    · rw [Bool.eq_false_iff.mpr (mt endsWith_iff.mp hends)] at hfirst
      cases rest with
      | nil => exact absurd hfirst (by simp)
      | cons next later =>
        have hlabel : '-' ∉ ' ' :: item.label.toList ++ "; ".toList := by
          simp [hitem.label '-' (by decide)]
        have hlast : ∀ c ∈ (' ' :: item.label.toList ++ "; ".toList).getLast?, c = ' ' := by
          intro c hc
          rw [List.getLast?_append] at hc
          exact (Option.some.inj hc).symm
        obtain ⟨before, others, hfound⟩ := ih hrest hfirst hlabel hlast
        rw [List.append_assoc] at hfound
        rw [splitFirst?_explained_missed hvalue hitem hdash hspace hends, furtherExplanations,
          hfound]
        exact ⟨_, others, rfl⟩

/-! ## The label that is read there -/

/-- What follows a label is cut behind it: the token has a dash, and no semicolon. -/
theorem exists_aroundToken? {token text before label rest : List Char} (hdash : '-' ∈ token)
    (hmark : ';' ∉ token) (hlabel : '-' ∉ label) (hrest : ∀ c ∈ rest.head?, c = ';')
    (h : splitFirst? token text = some (before, label ++ rest)) :
    ∃ cut, aroundToken? token text = some (before, label ++ cut) ∧ cut <+: rest := by
  rw [aroundToken?, h, Option.map_some]
  cases hnext : splitFirst? token (label ++ rest) with
  | none => exact ⟨rest, by simp [hnext], List.prefix_refl rest⟩
  | some parts =>
    obtain ⟨segment, tail⟩ := parts
    have hsplit := splitFirst?_eq_some hnext
    rw [List.append_assoc] at hsplit
    rcases List.append_eq_append_iff.mp hsplit with ⟨cut, rfl, hcut⟩ | ⟨surplus, hcovers, htoken⟩
    · exact ⟨cut, by simp [hnext], _, hcut.symm⟩
    -- Otherwise the token begins in the label and ends in it or behind it.
    rcases List.append_eq_append_iff.mp htoken with ⟨more, rfl, -⟩ | ⟨cut, rfl, rfl⟩
    · exact absurd (by simp [hcovers, hdash]) hlabel
    · cases cut with
      | nil =>
        rw [List.append_nil] at hdash
        exact absurd (hcovers ▸ List.mem_append_right segment hdash) hlabel
      | cons c cut =>
        obtain rfl : c = ';' := hrest c rfl
        exact absurd (by simp) hmark

/-- What is taken up to a mark is all that stands before the first one. -/
theorem takeWhile_ne_append {mark : Char} {s rest : List Char} (hs : mark ∉ s)
    (hrest : ∀ c ∈ rest.head?, c = mark) : (s ++ rest).takeWhile (· ≠ mark) = s := by
  have hend : rest.takeWhile (· ≠ mark) = [] := by
    cases rest with
    | nil => rfl
    | cons c rest =>
      obtain rfl : c = mark := hrest c rfl
      exact List.takeWhile_cons_of_neg (by simp)
  rw [List.takeWhile_append_of_pos fun c hc => by simpa using ne_of_mem_of_not_mem hc hs, hend,
    List.append_nil]

theorem explainedLabel?_append {label rest : List Char} (hsome : label ≠ [])
    (htrim : trim label = label) (hmark : ';' ∉ label) (hrest : ∀ c ∈ rest.head?, c = ';')
    (hline : '\n' ∉ label ++ rest) :
    explainedLabel? (label ++ rest) = some (String.ofList label) := by
  have hfirst : firstLine (label ++ rest) = label ++ rest := by
    rw [firstLine, lines_of_no_newline (by simp [hsome]) hline]
    rfl
  rw [explainedLabel?, hfirst, takeWhile_ne_append hmark hrest, htrim]
  simp [hsome]

/-- A value has the label of the first value that ends with it. -/
theorem labelIn_explanations {value : String} (hvalue : ∀ c ∈ value.toList, c.isAlphanum = true)
    (h : ∀ item ∈ items, item.IsPlain) {first : SelectionItem}
    (hfirst : firstEnding items value = some first) :
    labelIn (explanations items) value = first.label := by
  have hplain : first.IsPlain := h first (List.mem_of_find?_eq_some hfirst)
  obtain ⟨before, rest, hfound⟩ := exists_splitFirst?_explanations hvalue h hfirst (s := [])
    List.not_mem_nil (by simp)
  rw [List.nil_append] at hfound
  have hmark : ';' ∉ (value ++ " - ").toList := by
    have hword : ';' ∉ value.toList := not_mem_of_isAlphanum hvalue (by decide)
    simp [hword]
  obtain ⟨cut, haround, hcut⟩ := exists_aroundToken? (by simp) hmark
    (hplain.label '-' (by decide)) (head?_furtherExplanations rest) hfound
  have hline : '\n' ∉ first.label.toList ++ cut := by
    intro hmem
    have hbehind : '\n' ∈ first.label.toList ++ furtherExplanations rest :=
      (List.prefix_append_right_inj _ |>.mpr hcut).subset hmem
    apply newline_not_mem_explanations h
    rw [splitFirst?_eq_some hfound]
    exact List.mem_append_right _ hbehind
  have hhead : ∀ c ∈ cut.head?, c = ';' := by
    intro c hc
    obtain ⟨more, hmore⟩ := hcut
    refine head?_furtherExplanations rest c ?_
    rw [← hmore, List.head?_append, hc]
    rfl
  have hlabel : explainedLabel? (first.label.toList ++ cut) = some first.label := by
    rw [explainedLabel?_append hplain.label_ne hplain.trim_label (hplain.label ';' (by decide))
      hhead hline, String.ofList_toList]
  have hexplanation : explanation? (explanations items) value =
      some (before, first.label.toList ++ cut) := by
    rw [explanation?, itemSeparators, List.findSome?_cons, haround]
  rw [labelIn, hexplanation]
  show (explainedLabel? (first.label.toList ++ cut)).getD value = first.label
  rw [hlabel, Option.getD_some]

/-! ## The field of an enumeration -/

/-- The enumeration is named after an attribute of a class, and the documentation of the attribute
explains its values. -/
structure SchemaClass.IsExplainedBy (c owner : SchemaClass) (a : Attribute)
    (items : List SelectionItem) : Prop where
  isComplex : owner.isComplex = true
  first : owner.attributes.find? (fun other => other.name == a.name) = some a
  name : ∃ type : String, c.name = type ++ "_" ++ a.name ∧ '_' ∉ type.toList
  qname : c.qname = owner.qname ++ "_" ++ a.name
  simple : '_' ∉ a.name.toList ∧ '_' ∉ owner.qname.toList
  documentation : a.documentation = some (String.ofList (explanations items))
  values : c.values.map (·.value) = items.map (·.value)
  plain : ∀ item ∈ items, item.IsPlain

theorem headPart_append {s rest : List Char} (hs : '_' ∉ s) (hrest : ∀ c ∈ rest.head?, c = '_') :
    headPart (s ++ rest) = s := takeWhile_ne_append hs hrest

theorem SchemaClass.IsExplainedBy.fieldDoc?_eq {c owner : SchemaClass} {a : Attribute}
    (h : c.IsExplainedBy owner a items) {f : Forest}
    (howner : f.resolve owner.qname = some owner) :
    f.fieldDoc? c = some (String.ofList (explanations items)) := by
  obtain ⟨type, hname, htype⟩ := h.name
  have hfield : enumField? c.name = some a.name := by
    have hsplit : splitFirst? ['_'] c.name.toList = some (type.toList, a.name.toList) :=
      splitFirst?_char_eq_some_iff.mpr ⟨by simp [hname], htype⟩
    rw [enumField?, hsplit, Option.map_some]
    show some (String.ofList (headPart a.name.toList)) = some a.name
    rw [← List.append_nil a.name.toList, headPart_append h.simple.1 (by simp),
      String.ofList_toList]
  have hqname : String.ofList (headPart c.qname.toList) = owner.qname := by
    have hwhole : c.qname.toList = owner.qname.toList ++ '_' :: a.name.toList := by simp [h.qname]
    rw [hwhole, headPart_append h.simple.2 (by simp), String.ofList_toList]
  rw [Forest.fieldDoc?, hfield, hqname, howner]
  show ((some owner).filter SchemaClass.isComplex).bind _ = _
  rw [Option.filter_some, if_pos h.isComplex]
  show (owner.attributes.find? _).bind _ = _
  rw [h.first]
  exact h.documentation

/-! ## Whose label it is -/

/-- No value is the end of an earlier one. -/
def EndsApart (items : List SelectionItem) : Prop :=
  items.Pairwise fun earlier later => ¬ later.value.toList <:+ earlier.value.toList

instance (items : List SelectionItem) : Decidable (EndsApart items) :=
  inferInstanceAs (Decidable (items.Pairwise _))

theorem exists_firstEnding {item : SelectionItem} (h : item ∈ items) :
    ∃ first, firstEnding items item.value = some first := by
  refine Option.isSome_iff_exists.mp (List.find?_isSome.mpr ⟨item, h, ?_⟩)
  exact endsWith_iff.mpr (List.suffix_refl _)

theorem firstEnding_eq_self (h : EndsApart items) {item : SelectionItem} (hitem : item ∈ items) :
    firstEnding items item.value = some item := by
  obtain ⟨before, after, rfl⟩ := List.append_of_mem hitem
  refine List.find?_eq_some_iff_append.mpr
    ⟨endsWith_iff.mpr (List.suffix_refl _), before, after, rfl, fun other hother => ?_⟩
  have hapart := (List.pairwise_append.mp h).2.2 other hother item List.mem_cons_self
  rw [Bool.not_eq_true', Bool.eq_false_iff]
  exact mt endsWith_iff.mp hapart

theorem endsApart_of_labels (hlabels : (items.map (·.label)).Nodup)
    (h : ∀ item ∈ items, ∀ first ∈ firstEnding items item.value, first.label = item.label) :
    EndsApart items := by
  rw [EndsApart, List.pairwise_iff_getElem]
  intro i j hi hj hlt hends
  obtain ⟨first, hfirst⟩ := exists_firstEnding (List.getElem_mem hj)
  have hmem : first ∈ items := List.mem_of_find?_eq_some hfirst
  have hsame : first = items[j] := List.inj_on_of_nodup_map hlabels hmem (List.getElem_mem hj)
    (h items[j] (List.getElem_mem hj) first hfirst)
  obtain ⟨-, k, hk, hget, hbefore⟩ := List.find?_eq_some_iff_getElem.mp hfirst
  obtain rfl : k = j := (List.Nodup.of_map _ hlabels).getElem_inj_iff.mp (hget.trans hsame)
  have hearlier := hbefore i hlt
  rw [endsWith_iff.mpr hends] at hearlier
  exact absurd hearlier (by decide)

/-- The documentation of a field labels each value like the first one that ends with it.  So where
no value is the end of an earlier one each has its own label, and where the labels differ that is
the only case. -/
theorem Context.labels_of_explanations {b : Bundle} {m : Model} {config : Config}
    {texts : String → Option String} {ctx : Context} (hm : b.model = .ok m)
    (hctx : collect m config texts = .ok ctx) {ownerId : Nat} {c owner : SchemaClass}
    {a : Attribute} (howner : ctx.forest.get? ownerId = some owner)
    (h : c.IsExplainedBy owner a items) (id : Nat) :
    (∀ item ∈ items, ∃ first, firstEnding items item.value = some first) ∧
    (ctx.enumDoc id c).items = items.map (fun item =>
      ⟨item.value, ((firstEnding items item.value).getD item).label⟩) ∧
    (EndsApart items → (ctx.enumDoc id c).items = items) ∧
    ((items.map (·.label)).Nodup → (ctx.enumDoc id c).items = items → EndsApart items) := by
  have hdoc := h.fieldDoc?_eq (resolve_of_get? hm hctx howner)
  have hitems : (ctx.enumDoc id c).items = items.map fun item =>
      ⟨item.value, ((firstEnding items item.value).getD item).label⟩ := by
    have hvalues : (ctx.enumDoc id c).items = (c.values.map (·.value)).map fun value =>
        ⟨value, labelIn (explanations items) value⟩ := by
      rw [enumDoc, hdoc, List.map_map]
      simp only [String.toList_ofList]
      rfl
    rw [hvalues, h.values, List.map_map]
    refine List.map_congr_left fun item hitem => ?_
    obtain ⟨first, hfirst⟩ := exists_firstEnding hitem
    show (⟨item.value, labelIn (explanations items) item.value⟩ : SelectionItem) = _
    rw [labelIn_explanations (h.plain item hitem).value h.plain hfirst, hfirst, Option.getD_some]
  refine ⟨fun item => exists_firstEnding, hitems, fun hapart => ?_, fun hlabels hown => ?_⟩
  · rw [hitems]
    refine (List.map_congr_left fun item hitem => ?_).trans (List.map_id items)
    rw [firstEnding_eq_self hapart hitem]
    rfl
  · refine endsApart_of_labels hlabels fun item hitem first hfirst => ?_
    have hmap := (hitems.symm.trans hown).trans (List.map_id items).symm
    have hsame := List.map_inj_left.mp hmap item hitem
    rw [hfirst, Option.getD_some] at hsame
    exact (SelectionItem.mk.inj hsame).2

/-- An attribute whose values are explained. -/
def numberAttribute : Attribute where
  name := "tipo"
  documentation := some "11 - Onze; 1 - Um"
  types := [.named "Doc_tipo"]

def numberOwner : ClassDecl where
  qname := "Doc"
  name := "Doc"
  attributes := [numberAttribute]

def numberEnumeration : ClassDecl where
  qname := "Doc_tipo"
  name := "Doc_tipo"
  kind := .enumeration
  values := [⟨"11", none⟩, ⟨"1", none⟩]

def numberBundle : Bundle where
  classes := [.node numberOwner [], .node numberEnumeration []]

def numberItems : List SelectionItem := [⟨"11", "Onze"⟩, ⟨"1", "Um"⟩]

theorem isPlain_of_mem_numberItems : ∀ item ∈ numberItems, item.IsPlain := by
  intro item hitem
  have hchecks : item.value.toList.all Char.isAlphanum = true ∧ item.label.toList ≠ [] ∧
      trim item.label.toList = item.label.toList ∧
      [';', '-', '\n'].all (fun mark => !item.label.toList.contains mark) = true := by
    revert item
    decide +kernel
  obtain ⟨hvalue, hsome, htrim, hlabel⟩ := hchecks
  refine ⟨List.all_eq_true.mp hvalue, hsome, htrim, fun mark hmark => ?_⟩
  simpa using List.all_eq_true.mp hlabel mark hmark

theorem isExplainedBy_numbers {c owner : SchemaClass} (hc : c.toClassDecl = numberEnumeration)
    (howner : owner.toClassDecl = numberOwner) :
    c.IsExplainedBy owner numberAttribute numberItems := by
  obtain ⟨c, inner, parent⟩ := c
  obtain ⟨owner, ownerInner, ownerParent⟩ := owner
  obtain rfl : c = numberEnumeration := hc
  obtain rfl : owner = numberOwner := howner
  exact {
    isComplex := rfl
    first := rfl
    name := ⟨"Doc", rfl, by decide⟩
    qname := rfl
    simple := by
      show '_' ∉ "tipo".toList ∧ '_' ∉ "Doc".toList
      decide
    documentation := by decide +kernel
    values := rfl
    plain := isPlain_of_mem_numberItems }

/-- The label of the first value is that of the second too. -/
theorem number_labels :
    ∃ m ctx owner c, numberBundle.model = .ok m ∧
      Context.collect m {} (fun _ => none) = .ok ctx ∧ ctx.forest.get? 0 = some owner ∧
      ctx.forest.get? 1 = some c ∧ c.IsExplainedBy owner numberAttribute numberItems ∧
      (ctx.enumDoc 1 c).items = [⟨"11", "Onze"⟩, ⟨"1", "Onze"⟩] ∧
      (ctx.enumDoc 1 c).items ≠ numberItems := by
  obtain ⟨m, ctx, hm, hctx, hcheck⟩ := Context.exists_collect numberBundle {} (fun _ => none)
    (fun _ ctx => ∃ owner ∈ ctx.forest.get? 0, ∃ c ∈ ctx.forest.get? 1,
      owner.toClassDecl = numberOwner ∧ c.toClassDecl = numberEnumeration)
    (by decide +kernel)
  obtain ⟨owner, howner, c, hc, howned, hdecl⟩ := of_decide_eq_true hcheck
  have hexplained := isExplainedBy_numbers hdecl howned
  obtain ⟨-, hitems, -, hapart⟩ := Context.labels_of_explanations hm hctx howner hexplained 1
  refine ⟨m, ctx, owner, c, hm, hctx, howner, hc, hexplained, ?_, fun hown => ?_⟩
  · rw [hitems]
    decide +kernel
  · exact absurd (hapart (by decide) hown) (by decide +kernel)

end SchemaModels

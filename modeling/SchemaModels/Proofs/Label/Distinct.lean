/-
Labels that share a set of used ones are pairwise different.

A call for a label ends, its label was not used before, and is used after it.  So it is for every
call of a sequence, whatever the names, the documentation and the options of the calls are, and
hence for the fields that are mapped one after the other with one set of used labels: each has one
label, and no two have the same.
-/
import SchemaModels.Proofs.Label.Loops
import SchemaModels.Proofs.Mapper.Keywords

namespace SchemaModels

namespace Label

/-- A call for a label: what is asked for, apart from the used labels. -/
structure Call where
  options : LabelOptions
  name : String
  doc : Option String
deriving DecidableEq

def Call.label (call : Call) (used : List String) : Label :=
  extract call.options used call.name call.doc

def usedAfter (used : List String) (calls : List Call) : List String :=
  calls.foldl (fun used call => use used (call.label used)) used

theorem usedAfter_concat (used : List String) (calls : List Call) (call : Call) :
    usedAfter used (calls ++ [call]) =
      usedAfter used calls ++ [(call.label (usedAfter used calls)).text] := by
  rw [usedAfter, List.foldl_append, List.foldl_cons, List.foldl_nil, ← usedAfter]
  exact use_of_not_mem (extract_not_mem _ _ _ _)

end Label

namespace Mapping

def labels : Mapping → List Literal
  | field d => (d.kwargs.filter fun kwarg => kwarg.1 = "string").map Prod.snd
  | skipped => []
  | diagnostic _ _ => []

end Mapping

namespace Mapper

variable {m : Mapper} {a : Attribute} {label : Label} {used : List String}

/-- Attributes, each mapped by its own mapper, with the labels that those before it leave. -/
def mapEach (used : List String) : List (Mapper × Attribute) → List Mapping
  | [] => []
  | (m, a) :: rest => (m.map used a).1 :: mapEach (m.map used a).2 rest

theorem mapFrom_eq_mapEach (m : Mapper) (used : List String) (attributes : List Attribute) :
    m.mapFrom used attributes = mapEach used (attributes.map fun a => (m, a)) := by
  induction attributes generalizing used with
  | nil => rfl
  | cons a rest ih => rw [mapFrom, ih, List.map_cons, mapEach]

/-! ## The label of one field -/

/-- A field has the label that was found for its attribute, and no other. -/
theorem labels_typedField {type : TypeReference} {d : FieldDefinition}
    (h : m.typedField a label type = .field d) :
    (Mapping.field d).labels = [.text label.text] := by
  obtain ⟨lead, extra, hkwargs, hshape⟩ := shape_of_typedField h
  have hlead : "string" ∉ lead.keys := fun hmem =>
    absurd (hshape.keys_lead_sublist.subset hmem) (by decide)
  have hbasic : "string" ∉ (m.basicKeywords a).keys := fun hmem =>
    absurd ((m.keys_basicKeywords_sublist a).subset hmem) (by decide)
  have hextra : "string" ∉ extra.keys := fun hmem =>
    absurd (hshape.keys_extra_sublist.subset hmem) (by decide)
  have hhelp : "string" ∉ (helpKeywords label).keys := fun hmem =>
    absurd ((keys_helpKeywords_sublist label).subset hmem) (by decide)
  show (d.kwargs.filter (·.1 == "string")).map Prod.snd = _
  rw [hkwargs, keywords]
  simp only [List.filter_append, List.filter_cons, Keywords.filter_eq_nil hlead,
    Keywords.filter_eq_nil hbasic, Keywords.filter_eq_nil hextra, Keywords.filter_eq_nil hhelp]
  rfl

/-- A mapped attribute leaves the used labels alone, or adds one that is new; if it becomes a field,
that is the label of the field. -/
theorem map_cases (m : Mapper) (used : List String) (a : Attribute) :
    ((m.map used a).2 = used ∧ ∀ d, (m.map used a).1 ≠ .field d) ∨
      ∃ text, text ∉ used ∧ (m.map used a).2 = used ++ [text] ∧
        ∀ d, (m.map used a).1 = .field d → (m.map used a).1.labels = [.text text] := by
  by_cases hskip : m.isSkipped a = true
  · rw [map, if_pos hskip]
    exact Or.inl ⟨rfl, by simp⟩
  · rw [map, if_neg hskip]
    cases htype : a.primaryType with
    | none => exact Or.inl ⟨rfl, by simp⟩
    | some type =>
      have hnew := Label.extract_not_mem m.ctx.config.labels.options used a.name a.documentation
      refine Or.inr ⟨_, hnew, Label.use_of_not_mem hnew, fun d hd => ?_⟩
      show (m.typedField a _ type).labels = _
      rw [show m.typedField a _ type = .field d from hd]
      exact labels_typedField hd

/-! ## The labels of many fields -/

theorem exists_texts_mapEach (items : List (Mapper × Attribute)) (used : List String) :
    ∃ texts : List String, (mapEach used items).flatMap Mapping.labels = texts.map Literal.text ∧
      texts.Nodup ∧ ∀ text ∈ texts, text ∉ used := by
  induction items generalizing used with
  | nil => exact ⟨[], rfl, List.nodup_nil, by simp⟩
  | cons item rest ih =>
    obtain ⟨m, a⟩ := item
    rw [mapEach, List.flatMap_cons]
    have hother : (∀ d, (m.map used a).1 ≠ .field d) → (m.map used a).1.labels = [] := by
      intro h
      cases hmapping : (m.map used a).1 with
      | field d => exact absurd hmapping (h d)
      | skipped => rfl
      | diagnostic name message => rfl
    rcases m.map_cases used a with ⟨hused, hnone⟩ | ⟨text, hnew, hused, hfield⟩
    · obtain ⟨texts, htexts, hnodup, hfresh⟩ := ih used
      rw [hused, hother hnone]
      exact ⟨texts, htexts, hnodup, hfresh⟩
    · obtain ⟨texts, htexts, hnodup, hfresh⟩ := ih (used ++ [text])
      rw [hused, htexts]
      have hbefore : ∀ t ∈ texts, t ∉ used := fun t ht hin =>
        hfresh t ht (List.mem_append_left _ hin)
      by_cases hd : ∃ d, (m.map used a).1 = .field d
      · obtain ⟨d, hd⟩ := hd
        rw [hfield d hd]
        have htext : text ∉ texts := fun ht => hfresh text ht (by simp)
        refine ⟨text :: texts, rfl, List.nodup_cons.mpr ⟨htext, hnodup⟩, ?_⟩
        exact List.forall_mem_cons.mpr ⟨hnew, hbefore⟩
      · rw [hother (not_exists.mp hd)]
        exact ⟨texts, rfl, hnodup, hbefore⟩

theorem exists_label_of_mem_mapEach {items : List (Mapper × Attribute)} {d : FieldDefinition} :
    ∀ {used : List String}, .field d ∈ mapEach used items →
      ∃ text, (Mapping.field d).labels = [.text text] := by
  induction items with
  | nil => intro used h; exact absurd h (by simp [mapEach])
  | cons item rest ih =>
    intro used h
    obtain ⟨m, a⟩ := item
    rw [mapEach, List.mem_cons] at h
    rcases h with h | h
    · rcases m.map_cases used a with ⟨-, hnone⟩ | ⟨text, -, -, hfield⟩
      · exact absurd h.symm (hnone d)
      · exact ⟨text, h ▸ hfield d h.symm⟩
    · exact ih h

end Mapper

namespace Label

/-- Every call of a sequence ends with a label that was not used before and is the one label that is
used in addition after it; so of all fields that are mapped with one set of used labels, by
whichever mappers, each has one label and no two have the same, and no two fields of a class do. -/
theorem labels_stay_apart (used : List String) {calls : List Call}
    (hstopwords : ∀ call ∈ calls, call.options.HasNoBlankStopword) :
    (∀ before call after, calls = before ++ call :: after →
      ∃ label, extractByLoops call.options (usedAfter used before) call.name call.doc =
          Part.some label ∧
        label = extract call.options (usedAfter used before) call.name call.doc ∧
        label.text ∉ usedAfter used before ∧
        ∀ text, text ∈ usedAfter used (before ++ [call]) ↔
          text ∈ usedAfter used before ∨ text = label.text) ∧
    (∀ items : List (Mapper × Attribute),
      (∀ d, .field d ∈ Mapper.mapEach used items →
        ∃ text, (Mapping.field d).labels = [.text text]) ∧
      ((Mapper.mapEach used items).flatMap Mapping.labels).Nodup) ∧
    ∀ m : Mapper, (m.mappings.flatMap Mapping.labels).Nodup := by
  have hfields : ∀ used items, ((Mapper.mapEach used items).flatMap Mapping.labels).Nodup := by
    intro used items
    obtain ⟨texts, htexts, hnodup, -⟩ := Mapper.exists_texts_mapEach items used
    rw [htexts]
    exact hnodup.map fun s t h => Literal.text.inj h
  refine ⟨fun before call after hcalls => ?calls, fun items => ⟨?one, hfields used items⟩, ?_⟩
  case calls =>
    have hcall := hstopwords call (hcalls ▸ by simp)
    refine ⟨_, extractByLoops_eq hcall _ _ _, rfl, extract_not_mem _ _ _ _, fun text => ?_⟩
    rw [usedAfter_concat, List.mem_append, List.mem_singleton]
    rfl
  case one => exact fun d hd => Mapper.exists_label_of_mem_mapEach hd
  intro m
  rw [Mapper.mappings, Mapper.mapFrom_eq_mapEach]
  exact hfields [] _

/-- Calls for one name: in the end there is room for a number and no name, and then for a text. -/
def valueCalls : List Call :=
  let options : LabelOptions := ⟨5, 11, ["de"], []⟩
  [⟨options, "vNF", none⟩, ⟨options, "vNF", none⟩, ⟨{ options with maxLength := 0 }, "vNF", none⟩,
    ⟨options, "vNF", some "Valor de tudo, com desconto"⟩]

theorem values_stay_apart :
    (∀ call ∈ valueCalls, call.options.HasNoBlankStopword) ∧
      usedAfter ["vNF"] (valueCalls.take 3) = ["vNF", "vNF (vNF)", "vNF (2)", " (2)"] ∧
      ∀ before call after, valueCalls = before ++ call :: after →
        ∃ label, extractByLoops call.options (usedAfter ["vNF"] before) call.name call.doc =
            Part.some label ∧
          label.text ∉ usedAfter ["vNF"] before := by
  have hstopwords : ∀ call ∈ valueCalls, call.options.HasNoBlankStopword := by
    simp only [LabelOptions.HasNoBlankStopword, Text.exists_not_blank_iff]
    decide +kernel
  refine ⟨hstopwords, by decide +kernel, fun before call after hcalls => ?_⟩
  obtain ⟨label, hlabel, -, hnew, -⟩ :=
    (labels_stay_apart ["vNF"] hstopwords).1 before call after hcalls
  exact ⟨label, hlabel, hnew⟩

end Label
end SchemaModels

/-
What is learned of one class does not reach another.

The facts of all classes stand in one table under keys that put a qualified name and the name of an
attribute together, and a qualified name can hold the mark between them.  A key still belongs to one
class: the names under which facts are taught are those that the schema files declare, and if none of
them holds the mark, the last one in a key is the one that was put there.  So looking up a class
changes nothing that is known of another, and over a whole run a class owes its facts to its own
first lineage.
-/
import SchemaModels.Proofs.Bundle
import SchemaModels.Proofs.Facts.DocumentOrder
import SchemaModels.Proofs.Facts.Mining

namespace SchemaModels

open Xml (Element Placed)
open Xml.Placed (Holds IsIn)

/-! ## Keys -/

theorem splitLast?_factKey {name : String} (h : '#' ∉ name.toList) (qname : String) :
    Text.splitLast? ['#'] (factKey qname name).toList = some (qname.toList, name.toList) := by
  rw [Text.splitLast?_char_eq_some_iff]
  exact ⟨by simp [factKey], h⟩

/-- Without the mark in the name, a key tells the class and the name. -/
theorem factKey_inj {qname qname' name name' : String} (h : '#' ∉ name.toList)
    (h' : '#' ∉ name'.toList) (heq : factKey qname name = factKey qname' name') :
    qname = qname' ∧ name = name' := by
  have hsplit := splitLast?_factKey h qname
  rw [heq, splitLast?_factKey h' qname', Option.some.injEq, Prod.mk.injEq] at hsplit
  exact ⟨String.toList_inj.mp hsplit.1.symm, String.toList_inj.mp hsplit.2.symm⟩

/-! ## Declared names -/

/-- The name that an element of a schema declares or refers to, without its prefix. -/
def declaredName? (d : Placed) : Option String :=
  if declarationNames.contains d.name then
    (d.attr? "name" <|> d.attr? "ref").map withoutPrefix
  else none

namespace SchemaFiles

/-- The name of an element or an attribute that stands in one of the schema files. -/
def IsDeclared (files : SchemaFiles) (name : String) : Prop :=
  ∃ entry ∈ files, ∃ d : Placed, d.IsIn ⟨[], entry.2⟩ ∧ declaredName? d = some name

def declaredNames (files : SchemaFiles) : List String :=
  files.flatMap fun entry =>
    ((Placed.outside []).walk (Placed.children ⟨[], entry.2⟩)).filterMap declaredName?

theorem isDeclared_iff {files : SchemaFiles} {name : String} :
    files.IsDeclared name ↔ name ∈ files.declaredNames := by
  simp only [IsDeclared, declaredNames, List.mem_flatMap, List.mem_filterMap,
    Nesting.walk_eq_listing, Placed.mem_listing_outside_iff, Placed.Reaches, List.not_mem_nil,
    not_false_eq_true, implies_true, and_true]

end SchemaFiles

/-! ## Where facts come from -/

theorem holds_of_anonymous? {name : String} {e : Placed} {found : Located}
    (h : anonymous? name e = some found) : Holds e found.complexType := by
  rw [anonymous?, Option.ite_none_right_eq_some, Option.map_eq_some_iff] at h
  obtain ⟨-, complexType, hchild, rfl⟩ := h
  exact List.mem_of_find?_eq_some hchild

theorem isIn_of_topLevel? {schema : Element} {name : String} {found : Located}
    (h : topLevel? schema name = some found) : found.complexType.IsIn ⟨[], schema⟩ := by
  obtain ⟨e, he, hfound⟩ := List.exists_of_findSome?_eq_some h
  have hin : e.IsIn ⟨[], schema⟩ := Relation.TransGen.single he
  rw [topLevelIn?, Option.ite_none_left_eq_some] at hfound
  obtain ⟨-, hfound⟩ := hfound
  split at hfound
  · cases hfound
    exact hin
  · rw [Option.ite_none_right_eq_some] at hfound
    exact hin.tail (holds_of_anonymous? hfound.2)

theorem isIn_of_nested? {scope : Placed} {name : String} {found : Located}
    (h : nested? scope name = some found) : found.complexType.IsIn scope := by
  obtain ⟨e, he⟩ := exists_first_of_nested? h
  exact he.declares.reached.1.tail (List.mem_of_find?_eq_some he.complexType_eq)

theorem exists_way_of_followNames {start found : Located} {names : List String}
    (h : followNames start names = some found) :
    Relation.ReflTransGen Holds start.complexType found.complexType := by
  induction names generalizing start with
  | nil =>
    rw [followNames, Option.some.injEq] at h
    rw [h]
  | cons name rest ih =>
    rw [followNames, Option.bind_eq_bind, Option.bind_eq_some_iff] at h
    obtain ⟨inner, hinner, hrest⟩ := h
    exact (isIn_of_nested? hinner).to_reflTransGen.trans (ih hrest)

/-- The complex type of a class stands in the schema in which the class is found. -/
theorem isIn_of_locate? {schema : Element} {names : List String} {found : Located}
    (h : locate? schema names = some found) : found.complexType.IsIn ⟨[], schema⟩ := by
  cases names with
  | nil => exact absurd h (by simp [locate?])
  | cons name rest =>
    rw [locate?, Option.bind_eq_bind, Option.bind_eq_some_iff] at h
    obtain ⟨top, htop, hrest⟩ := h
    exact Relation.TransGen.trans_left (isIn_of_topLevel? htop) (exists_way_of_followNames hrest)

theorem exists_declaration_of_mem_factsOf {complexType : Placed} {className : String}
    {entry : String × Fact} (h : entry ∈ factsOf complexType className) :
    ∃ d : Placed, d.IsIn complexType ∧ declaredName? d = some entry.1 := by
  rw [factsOf_eq] at h
  obtain ⟨d, hd, rfl⟩ := List.mem_map.mp h
  obtain ⟨hdeclaration, hnamed⟩ := List.mem_filter.mp hd
  obtain ⟨name, hname⟩ := Option.isSome_iff_exists.mp hnamed
  have hdeclared : declaredName? d.node = d.name? := if_pos (List.mem_filter.mp hdeclaration).2
  refine ⟨d.node, (isCarried_of_mem_namedDeclarations hd).inside, ?_⟩
  rw [hdeclared, hname, Option.getD_some]

namespace FactTable

variable {f : Forest} {files : SchemaFiles} {trees : List ClassTree} {table : FactTable}
  {lineage : List Nat} {lineages : List (List Nat)} {id : Nat} {c : SchemaClass}

/-- A fact is taught of the class at the end of the lineage, under a declared name. -/
theorem exists_name_of_taughtFact? {key : String} {fact : Fact}
    (h : taughtFact? f files lineage key = some fact) :
    ∃ id c name, subject? f lineage = some (id, c) ∧ files.IsDeclared name ∧
      key = factKey c.qname name := by
  simp only [taughtFact?, lastFact?, Option.bind_eq_bind, Option.bind_eq_some_iff,
    Option.map_eq_some_iff] at h
  obtain ⟨⟨id, c⟩, hsubject, found, hfound, entry, hentry, -⟩ := h
  obtain ⟨schema, hschema, hlocated⟩ := Option.bind_eq_some_iff.mp hfound
  obtain ⟨location, -, hfile⟩ := Option.bind_eq_some_iff.mp hschema
  obtain ⟨before, after, hfiles, -⟩ := List.lookup_eq_some_iff.mp hfile
  obtain ⟨d, hd, hname⟩ :=
    exists_declaration_of_mem_factsOf (List.mem_reverse.mp (List.mem_of_find?_eq_some hentry))
  refine ⟨id, c, entry.1, hsubject, ⟨(location, schema), ?_, d, ?_, hname⟩, ?_⟩
  · rw [hfiles]
    exact List.mem_append_right _ List.mem_cons_self
  · exact (isIn_of_locate? hlocated).trans hd
  · have hkey := List.find?_some hentry
    exact (beq_iff_eq.mp hkey).symm

/-! ## One step -/

/-- A fact that a lineage teaches under a key of a class is a fact of that class. -/
theorem subject?_of_taughtFact? (hf : f.Holds trees)
    (hfiles : ∀ name, files.IsDeclared name → '#' ∉ name.toList) (hc : f.get? id = some c)
    {name : String} (hname : '#' ∉ name.toList) {fact : Fact}
    (h : taughtFact? f files lineage (factKey c.qname name) = some fact) :
    subject? f lineage = some (id, c) := by
  obtain ⟨i, d, declared, hsubject, hdeclared, hkey⟩ := exists_name_of_taughtFact? h
  have hd := (subject?_eq_some_iff.mp hsubject).2.1
  obtain rfl : id = i := hf.eq_of_qname_eq hc hd (factKey_inj hname (hfiles _ hdeclared) hkey).1
  obtain rfl := Option.some.inj (hc.symm.trans hd)
  exact hsubject

/-- What is known of a class under a name without the mark is taught by its own lineages. -/
theorem isTaught_get? (hf : f.Holds trees)
    (hfiles : ∀ name, files.IsDeclared name → '#' ∉ name.toList) (hc : f.get? id = some c)
    {name : String} (hname : '#' ∉ name.toList) :
    IsTaught f files id (fun table => table.get? c name)
      fun lineage => taughtFact? f files lineage (factKey c.qname name) := by
  constructor
  case empty => rfl
  case passed =>
    intro table lineage hpassed
    rcases passed_or_due f table lineage with hall | ⟨i, d, hsubject, hdue⟩
    · rw [mine_of_passed hall]
    · show (mine f files table lineage).facts.lookup _ = table.facts.lookup _
      rw [lookup_facts_mine hsubject hdue]
      cases htaught : taughtFact? f files lineage (factKey c.qname name) with
      | none => rfl
      | some fact =>
        have hown := subject?_of_taughtFact? hf hfiles hc hname htaught
        obtain rfl : i = id := congrArg Prod.fst (Option.some.inj (hsubject.symm.trans hown))
        exact absurd (hpassed c hown) hdue
  case due =>
    intro table lineage d hsubject hdue
    exact lookup_facts_mine hsubject hdue _
  case silent =>
    intro lineage hnone
    rw [taughtFact?, hnone]
    rfl

/-- A table and the next one differ in nothing but what they know of one class. -/
structure ChangesOnly (f : Forest) (id : Nat) (c : SchemaClass) (table after : FactTable) :
    Prop where
  /-- The class counts as looked up, and those that did before. -/
  mined : ∀ i, i ∈ after.mined ↔ i ∈ table.mined ∨ i = id
  /-- A key under which there is another fact is one of the class. -/
  facts : ∀ key, after.facts.lookup key ≠ table.facts.lookup key →
    ∃ name, '#' ∉ name.toList ∧ key = factKey c.qname name
  /-- Documentation is recovered for the class alone, and not if it has its own. -/
  docs : ∀ i, after.docs.lookup i ≠ table.docs.lookup i → i = id ∧ c.documentation = none
  /-- Every other class keeps its facts and its documentation. -/
  others : ∀ i d, i ≠ id → f.get? i = some d →
    (∀ name, '#' ∉ name.toList → after.get? d name = table.get? d name) ∧
      after.documentation i d = table.documentation i d

theorem docs_mine_of_documented (hc : f.get? id = some c) (hdoc : c.documentation ≠ none) :
    (mine f files table lineage).docs.lookup id = table.docs.lookup id := by
  by_cases hpassed : ∀ d, subject? f lineage = some (id, d) → id ∈ table.mined
  · exact docs_mine_of_passed hpassed
  · push Not at hpassed
    obtain ⟨d, hsubject, hdue⟩ := hpassed
    obtain rfl := Option.some.inj (hc.symm.trans (subject?_eq_some_iff.mp hsubject).2.1)
    obtain ⟨doc, hdoc⟩ := Option.ne_none_iff_exists'.mp hdoc
    rw [mine_of_due hsubject hdue]
    cases declaration? f files lineage with
    | none => rfl
    | some found => simp only [learn, hdoc]

/-- Looking up a class changes nothing but what is known of that class. -/
theorem changesOnly_mine (hf : f.Holds trees)
    (hfiles : ∀ name, files.IsDeclared name → '#' ∉ name.toList)
    (hsubject : subject? f lineage = some (id, c)) (hdue : id ∉ table.mined) :
    ChangesOnly f id c table (mine f files table lineage) := by
  have hother : ∀ i, i ≠ id → ∀ d, subject? f lineage = some (i, d) → i ∈ table.mined := by
    intro i hi d hd
    exact absurd (congrArg Prod.fst (Option.some.inj (hd.symm.trans hsubject))) hi
  constructor
  case mined =>
    intro i
    rw [mem_mined_mine, hsubject]
    simp [eq_comm]
  case facts =>
    intro key hchanged
    rw [lookup_facts_mine hsubject hdue] at hchanged
    cases htaught : taughtFact? f files lineage key with
    | none =>
      rw [htaught] at hchanged
      exact absurd rfl hchanged
    | some fact =>
      obtain ⟨i, d, name, hd, hdeclared, hkey⟩ := exists_name_of_taughtFact? htaught
      obtain rfl : d = c := congrArg Prod.snd (Option.some.inj (hd.symm.trans hsubject))
      exact ⟨name, hfiles name hdeclared, hkey⟩
  case docs =>
    intro i hchanged
    by_cases hi : i = id
    · refine ⟨hi, ?_⟩
      subst hi
      by_contra hdoc
      exact hchanged (docs_mine_of_documented (subject?_eq_some_iff.mp hsubject).2.1 hdoc)
    · exact absurd (docs_mine_of_passed (hother i hi)) hchanged
  case others =>
    intro i d hi hd
    constructor
    · intro name hname
      exact (isTaught_get? hf hfiles hd hname).passed table lineage (hother i hi)
    · rw [documentation, documentation, docs_mine_of_passed (hother i hi)]

/-! ## A whole run -/

/-- Nothing is recovered for a class that has documentation of its own. -/
theorem docs_mineAll_of_documented (hc : f.get? id = some c) (hdoc : c.documentation ≠ none)
    (lineages : List (List Nat)) : (mineAll f files {} lineages).docs.lookup id = none :=
  List.foldlRecOn (motive := fun table : FactTable => table.docs.lookup id = none) lineages _ rfl
    fun _ hnone _ _ => (docs_mine_of_documented hc hdoc).trans hnone

theorem mem_mined_iff_of_complex (hc : f.get? id = some c) (hcomplex : c.isComplex = true) :
    id ∈ (mineAll f files {} lineages).mined ↔ ∃ l ∈ lineages, l.getLast? = some id := by
  rw [mem_mined_mineAll]
  constructor
  · rintro (hnone | ⟨l, hl, d, hsubject⟩)
    · exact absurd hnone List.not_mem_nil
    · exact ⟨l, hl, (subject?_eq_some_iff.mp hsubject).1⟩
  · rintro ⟨l, hl, hend⟩
    exact Or.inr ⟨l, hl, c, subject?_eq_some_iff.mpr ⟨hend, hc, hcomplex⟩⟩

/-- If no declared name holds the mark, a table reached by any lineages stays as it is when a class
is looked up that is a list of values or came up before; when any other class is looked up, nothing
changes but what is known of that class.  A class with documentation of its own keeps it, and none
is recovered for it. -/
theorem mine_keeps_to_its_class {b : Bundle} {m : Model} (hm : b.model = .ok m)
    {files : SchemaFiles} (hfiles : ∀ name, files.IsDeclared name → '#' ∉ name.toList)
    (lineages : List (List Nat)) :
    (∀ lineage id c, lineage.getLast? = some id → m.forest.get? id = some c →
      ((c.isEnumeration = true ∨ ∃ l ∈ lineages, l.getLast? = some id) →
        mine m.forest files (mineAll m.forest files {} lineages) lineage =
          mineAll m.forest files {} lineages) ∧
      (c.isEnumeration = false → (∀ l ∈ lineages, l.getLast? ≠ some id) →
        ChangesOnly m.forest id c (mineAll m.forest files {} lineages)
          (mine m.forest files (mineAll m.forest files {} lineages) lineage))) ∧
    (∀ id c doc, m.forest.get? id = some c → c.documentation = some doc →
      (mineAll m.forest files {} lineages).documentation id c = some doc ∧
        (mineAll m.forest files {} lineages).docs.lookup id = none) := by
  constructor
  · intro lineage id c hend hc
    constructor
    · intro hpassed
      refine mine_of_passed fun i d hsubject => ?_
      obtain ⟨hend', hd, hcomplex⟩ := subject?_eq_some_iff.mp hsubject
      obtain rfl : id = i := Option.some.inj (hend.symm.trans hend')
      obtain rfl := Option.some.inj (hc.symm.trans hd)
      rcases hpassed with henum | hbefore
      · rw [c.isComplex_eq, henum] at hcomplex
        exact absurd hcomplex (by decide)
      · exact (mem_mined_iff_of_complex hc hcomplex).mpr hbefore
    · intro henum hfirst
      have hcomplex : c.isComplex = true := by rw [c.isComplex_eq, henum, Bool.not_false]
      refine changesOnly_mine (Bundle.holds_of_model hm) hfiles
        (subject?_eq_some_iff.mpr ⟨hend, hc, hcomplex⟩) ?_
      rw [mem_mined_iff_of_complex hc hcomplex]
      rintro ⟨l, hl, hl'⟩
      exact hfirst l hl hl'
  · intro id c doc hc hdoc
    constructor
    · rw [documentation, hdoc]
      rfl
    · exact docs_mineAll_of_documented hc (by simp [hdoc]) lineages

/-- Two classes whose qualified names go on from one another behind the mark. -/
def keyBundle : Bundle where
  classes :=
    [.node { qname := "Key", name := "Key", location := some "key.xsd" } [],
     .node { qname := "Key#Info", name := "Info", location := some "key.xsd" } []]

def keyFiles : SchemaFiles :=
  [("key.xsd", .node "schema" [] ""
    [.node "complexType" [("name", "Key")] ""
      [.node "attribute" [("name", "id"), ("type", "ID")] "" []],
     .node "complexType" [("name", "Info")] ""
      [.node "attribute" [("name", "value"), ("type", "string")] "" []]])]

/-- What is learned of the second class stands under a key that the first would have for another
name, but not for a declared one. -/
theorem classes_sharing_a_key_kept_apart :
    ∃ m c d, keyBundle.model = .ok m ∧ m.forest.get? 0 = some c ∧ m.forest.get? 1 = some d ∧
      factKey c.qname "Info#value" = factKey d.qname "value" ∧
      (∀ name, keyFiles.IsDeclared name → '#' ∉ name.toList) ∧
      ChangesOnly m.forest 1 d (mineAll m.forest keyFiles {} [[0]])
        (mine m.forest keyFiles (mineAll m.forest keyFiles {} [[0]]) [1]) ∧
      (mine m.forest keyFiles (mineAll m.forest keyFiles {} [[0]]) [1]).get? d "value" =
        some { type := some "string" } := by
  obtain ⟨m, hm, hcheck⟩ := keyBundle.exists_model
    (fun m => ∃ c ∈ m.forest.get? 0, ∃ d ∈ m.forest.get? 1, d.isEnumeration = false ∧
      factKey c.qname "Info#value" = factKey d.qname "value" ∧
      (mine m.forest keyFiles (mineAll m.forest keyFiles {} [[0]]) [1]).get? d "value" =
        some { type := some "string" })
    (by decide +kernel)
  obtain ⟨c, hc, d, hd, hcomplex, hkey, hlearned⟩ := of_decide_eq_true hcheck
  have hnames : ∀ name ∈ keyFiles.declaredNames, '#' ∉ name.toList := by decide +kernel
  have hfiles : ∀ name, keyFiles.IsDeclared name → '#' ∉ name.toList :=
    fun name hname => hnames name (SchemaFiles.isDeclared_iff.mp hname)
  have hmain := (mine_keeps_to_its_class hm hfiles [[0]]).1 [1] 1 d rfl hd
  exact ⟨m, c, d, hm, hc, hd, hkey, hfiles, hmain.2 hcomplex (by decide), hlearned⟩

end FactTable
end SchemaModels

/-
A bundle whose names are in order becomes a model, and nothing of it is lost.

`Holds` says what a forest is to keep of the trees it was made from: every class with all that is
declared of it, in pre-order, the links between them in both directions, and a way from every
qualified name to its class.  The main statement is `exists_model_holds`: pairwise different
qualified names, and groups that name no other classes, are all that a bundle needs.
-/
import Mathlib.Data.List.Chain
import Mathlib.Data.List.Nodup
import SchemaModels.Proofs.Forest.Layout

namespace SchemaModels
namespace Forest

def parentOf (f : Forest) (id : Nat) : Option Nat := (f.get? id).bind (·.parent)

/-- The forest keeps all that there is in the trees. -/
structure Holds (f : Forest) (trees : List ClassTree) : Prop where
  /-- Positions follow the pre-order of the trees. -/
  preorder : f.classes.toList.map (·.toClassDecl) = ClassTree.declsAll trees
  /-- From the roots down the inner lists the trees can be read back. -/
  readBack : f.roots.flatMap f.readBack = trees
  /-- A class is in the inner list of its parent, once, and in no other. -/
  count_inner : ∀ p d, f.get? p = some d →
    ∀ id, d.inner.count id = if f.parentOf id = some p then 1 else 0
  /-- A class without a parent is one of the roots, once, and no other class is. -/
  count_roots : ∀ id, f.roots.count id = if (f.get? id).map (·.parent) = some none then 1 else 0
  /-- A parent is there and stands before its children. -/
  parent_lt : ∀ id p, f.parentOf id = some p → p < id ∧ (f.get? p).isSome
  /-- A lineage goes from a root down the links to the class. -/
  lineage : ∀ id c, f.get? id = some c →
    (∃ root ∈ f.roots, (f.lineage id).head? = some root) ∧ (f.lineage id).getLast? = some id ∧
    (f.lineage id).IsChain fun p j => f.parentOf j = some p
  /-- A qualified name leads to the one class that has it. -/
  lookup_iff : ∀ qname id, f.lookup qname = some id ↔ ∃ c, f.get? id = some c ∧ c.qname = qname

/-! ## Links -/

theorem parentOf_eq_some_iff {f : Forest} {id p : Nat} :
    f.parentOf id = some p ↔ ∃ c, f.get? id = some c ∧ c.parent = some p := by
  rw [parentOf, Option.bind_eq_some_iff]

theorem count_inner_ofTrees (trees : List ClassTree) {p : Nat} {d : SchemaClass}
    (hd : (ofTrees trees).get? p = some d) (id : Nat) :
    d.inner.count id = if (ofTrees trees).parentOf id = some p then 1 else 0 := by
  have hnodup : d.inner.Nodup := (inner_pairwise_ofTrees trees hd).imp Nat.ne_of_lt
  by_cases hp : (ofTrees trees).parentOf id = some p
  · obtain ⟨c, hc, hcp⟩ := parentOf_eq_some_iff.mp hp
    obtain ⟨d', hd', hin⟩ := nested_ofTrees trees hc hcp
    obtain rfl : d = d' := Option.some.inj (hd.symm.trans hd')
    rw [if_pos hp, List.count_eq_one_of_mem hnodup hin]
  · rw [if_neg hp, List.count_eq_zero]
    intro hin
    obtain ⟨c, hc, hcp⟩ := linked_ofTrees trees p d hd id hin
    exact hp (parentOf_eq_some_iff.mpr ⟨c, hc, hcp⟩)

theorem count_roots_ofTrees (trees : List ClassTree) (id : Nat) :
    (ofTrees trees).roots.count id =
      if ((ofTrees trees).get? id).map (·.parent) = some none then 1 else 0 := by
  by_cases hp : ((ofTrees trees).get? id).map (·.parent) = some none
  · rw [if_pos hp, List.count_eq_one_of_mem (nodup_roots_ofTrees trees)]
    exact (mem_roots_ofTrees trees).mpr (Option.map_eq_some_iff.mp hp)
  · rw [if_neg hp, List.count_eq_zero]
    exact fun hroot => hp (Option.map_eq_some_iff.mpr ((mem_roots_ofTrees trees).mp hroot))

/-! ## Lineages -/

theorem lineage_of_root {f : Forest} {id : Nat} {c : SchemaClass} (hc : f.get? id = some c)
    (hp : c.parent = none) : f.lineage id = [id] := by
  unfold get? at hc
  rw [Forest.lineage]
  split
  · rfl
  · rename_i d hd
    obtain rfl : c = d := Option.some.inj (hc.symm.trans hd)
    split
    · rfl
    · rename_i p hp'
      rw [hp] at hp'
      exact absurd hp' (by simp)

theorem getLast?_lineage (f : Forest) (id : Nat) : (f.lineage id).getLast? = some id := by
  obtain ⟨above, h⟩ := f.singleton_suffix_lineage id
  rw [← h, List.getLast?_append]
  rfl

/-- Where roots and parents are there, every lineage comes from a root along the links. -/
theorem lineage_chain {f : Forest}
    (hroots : ∀ id c, f.get? id = some c → c.parent = none → id ∈ f.roots)
    (hparent : ∀ id p, f.parentOf id = some p → (f.get? p).isSome) (id : Nat) (c : SchemaClass)
    (hc : f.get? id = some c) :
    (∃ root ∈ f.roots, (f.lineage id).head? = some root) ∧
      (f.lineage id).IsChain fun p j => f.parentOf j = some p := by
  -- The induction goes up to the parent, which stands before the class.
  induction id using Nat.strongRecOn generalizing c with
  | ind id ih =>
    cases hp : c.parent with
    | none =>
      rw [lineage_of_root hc hp]
      exact ⟨⟨id, hroots id c hc hp, rfl⟩, List.isChain_singleton id⟩
    | some p =>
      have hlink : f.parentOf id = some p := parentOf_eq_some_iff.mpr ⟨c, hc, hp⟩
      obtain ⟨d, hd⟩ := Option.isSome_iff_exists.mp (hparent id p hlink)
      obtain ⟨⟨root, hroot, hhead⟩, hchain⟩ := ih p (f.parent_before id c hc p hp) d hd
      rw [lineage_of_parent hc hp]
      refine ⟨⟨root, hroot, ?_⟩, ?_⟩
      · rw [List.head?_append, hhead]
        rfl
      · refine List.isChain_append.mpr ⟨hchain, List.isChain_singleton id, ?_⟩
        intro last hlast first hfirst
        rw [getLast?_lineage] at hlast
        obtain rfl : p = last := Option.some.inj hlast
        obtain rfl : id = first := Option.some.inj hfirst
        exact hlink

/-! ## Qualified names -/

/-- Where no key stands twice, a lookup finds what is under the key. -/
theorem lookup_eq_some_of_mem {α β : Type} [BEq α] [LawfulBEq α] {entries : List (α × β)}
    (hkeys : (entries.map Prod.fst).Nodup) {key : α} {b : β} (h : (key, b) ∈ entries) :
    entries.lookup key = some b := by
  obtain ⟨c, hc⟩ : ∃ c, entries.lookup key = some c :=
    Option.isSome_iff_exists.mp (List.lookup_isSome_iff.mpr ⟨(key, b), h, beq_self_eq_true key⟩)
  obtain ⟨before, after, hsplit, -⟩ := List.lookup_eq_some_iff.mp hc
  have hmem : (key, c) ∈ entries := hsplit ▸ by simp
  have hsame : (key, c) = (key, b) := List.inj_on_of_nodup_map hkeys hmem h rfl
  rw [hc, (Prod.mk.inj hsame).2]

theorem lookup_ofTrees_iff {trees : List ClassTree} (hnames : (ofTrees trees).qnames.Nodup)
    (qname : String) (id : Nat) :
    (ofTrees trees).lookup qname = some id ↔
      ∃ c, (ofTrees trees).get? id = some c ∧ c.qname = qname := by
  have hkeys : ((ofTrees trees).byQname.map Prod.fst).Nodup := by
    rw [map_fst_byQname_ofTrees]
    exact List.nodup_reverse.mpr hnames
  rw [← mem_byQname_ofTrees, lookup]
  constructor
  · intro h
    obtain ⟨before, after, hsplit, -⟩ := List.lookup_eq_some_iff.mp h
    exact hsplit ▸ by simp
  · exact lookup_eq_some_of_mem hkeys

theorem qnames_eq {f : Forest} {trees : List ClassTree}
    (h : f.classes.toList.map (·.toClassDecl) = ClassTree.declsAll trees) :
    f.qnames = (ClassTree.declsAll trees).map (·.qname) := by
  rw [← h, List.map_map]
  rfl

theorem holds_ofTrees {trees : List ClassTree}
    (hnames : ((ClassTree.declsAll trees).map (·.qname)).Nodup) : (ofTrees trees).Holds trees := by
  have hparent : ∀ id p, (ofTrees trees).parentOf id = some p →
      p < id ∧ ((ofTrees trees).get? p).isSome := by
    intro id p h
    obtain ⟨c, hc, hp⟩ := parentOf_eq_some_iff.mp h
    obtain ⟨d, hd, -⟩ := nested_ofTrees trees hc hp
    exact ⟨(ofTrees trees).parent_before id c hc p hp, hd ▸ rfl⟩
  constructor
  case preorder => exact map_toClassDecl_ofTrees trees
  case readBack => exact readBack_roots trees
  case count_inner => exact fun p d hd => count_inner_ofTrees trees hd
  case count_roots => exact count_roots_ofTrees trees
  case parent_lt => exact hparent
  case lineage =>
    intro id c hc
    obtain ⟨hroot, hchain⟩ := lineage_chain
      (fun id c hc hp => (mem_roots_ofTrees trees).mpr ⟨c, hc, hp⟩)
      (fun id p h => (hparent id p h).2) id c hc
    exact ⟨hroot, getLast?_lineage _ id, hchain⟩
  case lookup_iff =>
    refine lookup_ofTrees_iff ?_
    rw [qnames_eq (map_toClassDecl_ofTrees trees)]
    exact hnames

/-! ## Groups -/

/-- Groups by the qualified names of their members. -/
def named (f : Forest) (groups : Groups Nat) : Groups String :=
  groups.map fun (path, members) => (path, members.map f.qnameOf)

/-- If each item of a list yields a result that shows what it was made from, then the list yields
results that show the list. -/
theorem exists_mapM_ok {ε α β : Type} {h : α → Except ε β} {g : β → α} :
    ∀ {l : List α}, (∀ a ∈ l, ∃ b, h a = .ok b ∧ g b = a) → ∃ bs, l.mapM h = .ok bs ∧ bs.map g = l
  | [], _ => ⟨[], rfl, rfl⟩
  | a :: rest, hl => by
    obtain ⟨b, hb, hshown⟩ := hl a List.mem_cons_self
    obtain ⟨bs, hbs, hmap⟩ :=
      exists_mapM_ok (l := rest) fun c hc => hl c (List.mem_cons_of_mem a hc)
    refine ⟨b :: bs, ?_, ?_⟩
    · rw [List.mapM_cons, hb, hbs]
      rfl
    · rw [List.map_cons, hshown, hmap]

variable {f : Forest} {trees : List ClassTree}

theorem Holds.exists_lookup (hf : f.Holds trees) {qname : String} (h : qname ∈ f.qnames) :
    ∃ id, f.lookup qname = some id ∧ f.qnameOf id = qname := by
  obtain ⟨c, hc, rfl⟩ := List.mem_map.mp h
  obtain ⟨id, hid, rfl⟩ := Array.mem_iff_getElem.mp (Array.mem_def.mpr hc)
  have hget : f.get? id = some f.classes[id] := Array.getElem?_eq_getElem hid
  refine ⟨id, (hf.lookup_iff _ id).mpr ⟨_, hget, rfl⟩, ?_⟩
  rw [qnameOf, hget]
  rfl

theorem Holds.eq_of_qname_eq (hf : f.Holds trees) {i j : Nat} {c d : SchemaClass}
    (hc : f.get? i = some c) (hd : f.get? j = some d) (h : c.qname = d.qname) : i = j :=
  Option.some.inj (((hf.lookup_iff c.qname i).mpr ⟨c, hc, rfl⟩).symm.trans
    ((hf.lookup_iff c.qname j).mpr ⟨d, hd, h.symm⟩))

theorem Holds.exists_resolveGroup (hf : f.Holds trees) {path : String} {members : List String}
    (hknown : ∀ qname ∈ members, qname ∈ f.qnames) :
    ∃ ids, f.resolveGroup path members = .ok ids ∧ ids.map f.qnameOf = members := by
  refine exists_mapM_ok fun qname hqname => ?_
  obtain ⟨id, hid, hname⟩ := hf.exists_lookup (hknown qname hqname)
  exact ⟨id, by rw [hid], hname⟩

theorem Holds.exists_resolveGroups (hf : f.Holds trees) {groups : Groups String}
    (hknown : ∀ group ∈ groups, ∀ qname ∈ group.2, qname ∈ f.qnames) :
    ∃ resolved, f.resolveGroups groups = .ok resolved ∧ f.named resolved = groups := by
  refine exists_mapM_ok fun group hgroup => ?_
  obtain ⟨path, members⟩ := group
  obtain ⟨ids, hids, hshown⟩ : ∃ ids, f.resolveGroup path members = .ok ids ∧
      ids.map f.qnameOf = members :=
    hf.exists_resolveGroup (hknown (path, members) hgroup)
  refine ⟨(path, ids), ?_, by simp only [hshown]⟩
  simp only [hids]
  rfl

/-- Groups that are given are resolved, and other groups take the place of none. -/
theorem Holds.exists_groups (hf : f.Holds trees) {groups : Groups String} (others : Groups Nat)
    (hknown : ∀ group ∈ groups, ∀ qname ∈ group.2, qname ∈ f.qnames) :
    ∃ resolved, (if groups.isEmpty then pure others else f.resolveGroups groups) = .ok resolved ∧
      (groups ≠ [] → f.named resolved = groups) := by
  by_cases hempty : groups = []
  · exact ⟨others, by rw [hempty]; rfl, fun h => absurd hempty h⟩
  · obtain ⟨resolved, hres, hshown⟩ := hf.exists_resolveGroups hknown
    refine ⟨resolved, ?_, fun _ => hshown⟩
    rw [if_neg (by simpa using hempty)]
    exact hres

end Forest

/-! ## The model of a bundle -/

theorem firstRepeated_eq_none_iff {names : List String} :
    ∀ {seen : List String}, firstRepeated seen names = none ↔
      names.Nodup ∧ ∀ name ∈ names, name ∉ seen := by
  induction names with
  | nil => simp [firstRepeated]
  | cons name rest ih =>
    intro seen
    rw [firstRepeated]
    by_cases hseen : name ∈ seen
    · simp [hseen]
    · rw [if_neg (by simpa using hseen), ih, List.nodup_cons]
      constructor
      · rintro ⟨hrest, hnew⟩
        refine ⟨⟨fun hin => hnew name hin List.mem_cons_self, hrest⟩, fun other hother => ?_⟩
        rcases List.mem_cons.mp hother with rfl | hin
        · exact hseen
        · exact fun h => hnew other hin (List.mem_cons_of_mem name h)
      · rintro ⟨⟨hname, hrest⟩, hnew⟩
        refine ⟨hrest, fun other hother h => ?_⟩
        rcases List.mem_cons.mp h with rfl | h
        · exact hname hother
        · exact hnew other (List.mem_cons_of_mem name hother) h

namespace Bundle

theorem bind_eq_ok {ε α β : Type} {x : Except ε α} {k : α → Except ε β} {a : α} {b : β}
    (hx : x = .ok a) (hk : k a = .ok b) : (x >>= k) = .ok b := by
  rw [hx]
  exact hk

/-- The model of a bundle in which no qualified name is declared twice: only the groups can fail. -/
theorem model_eq {b : Bundle} (hnames : (Forest.ofTrees b.classes).qnames.Nodup) :
    b.model =
      (if b.modules.isEmpty then pure [(Model.standardModule, (Forest.ofTrees b.classes).roots)]
        else (Forest.ofTrees b.classes).resolveGroups b.modules) >>= fun modules =>
      (if b.packages.isEmpty then pure (Model.packagesOf modules)
        else (Forest.ofTrees b.classes).resolveGroups b.packages) >>= fun packages =>
      pure ⟨Forest.ofTrees b.classes, modules, packages⟩ := by
  have hfirst : firstRepeated [] (Forest.ofTrees b.classes).qnames = none :=
    firstRepeated_eq_none_iff.mpr ⟨hnames, fun _ _ => List.not_mem_nil⟩
  have hforest : Forest.flatten b.classes = .ok (Forest.ofTrees b.classes) := by
    rw [Forest.flatten_eq, hfirst]
  rw [model, hforest]
  cases b.modules.isEmpty <;> cases b.packages.isEmpty <;> rfl

/-- The forest of a model holds the bundle it was read from: no qualified name is repeated in it. -/
theorem holds_of_model {b : Bundle} {m : Model} (h : b.model = .ok m) :
    m.forest.Holds b.classes := by
  rw [model_forest h]
  obtain ⟨forest, hforest, -⟩ := exists_ok_of_bind h
  rw [Forest.flatten_eq] at hforest
  cases hrepeated : firstRepeated [] (Forest.ofTrees b.classes).qnames with
  | some qname =>
    rw [hrepeated] at hforest
    exact absurd hforest (by simp)
  | none =>
    refine Forest.holds_ofTrees ?_
    rw [← Forest.qnames_eq (Forest.map_toClassDecl_ofTrees b.classes)]
    exact (firstRepeated_eq_none_iff.mp hrepeated).1

theorem exists_model_holds {b : Bundle}
    (hnames : ((ClassTree.declsAll b.classes).map (·.qname)).Nodup)
    (hknown : ∀ group ∈ b.modules ++ b.packages, ∀ qname ∈ group.2,
      qname ∈ (ClassTree.declsAll b.classes).map (·.qname)) :
    ∃ m, b.model = .ok m ∧ m.forest.Holds b.classes ∧
      (b.modules ≠ [] → m.forest.named m.modules = b.modules) ∧
      (b.packages ≠ [] → m.forest.named m.packages = b.packages) := by
  have hq := Forest.qnames_eq (Forest.map_toClassDecl_ofTrees b.classes)
  have hf : (Forest.ofTrees b.classes).Holds b.classes := Forest.holds_ofTrees hnames
  obtain ⟨modules, hmodules, hmodulesShown⟩ :=
    hf.exists_groups [(Model.standardModule, (Forest.ofTrees b.classes).roots)]
      fun group hgroup => hq ▸ hknown group (List.mem_append_left _ hgroup)
  obtain ⟨packages, hpackages, hpackagesShown⟩ :=
    hf.exists_groups (Model.packagesOf modules) fun group hgroup =>
      hq ▸ hknown group (List.mem_append_right _ hgroup)
  refine ⟨⟨Forest.ofTrees b.classes, modules, packages⟩, ?_, hf, hmodulesShown, hpackagesShown⟩
  rw [model_eq (hq ▸ hnames)]
  exact bind_eq_ok hmodules (bind_eq_ok hpackages rfl)

/-- An invoice with a header, in which its issuer is declared, and its lines. -/
def invoiceBundle : Bundle where
  classes :=
    [.node { qname := "Invoice", name := "Invoice" }
      [.node { qname := "Header", name := "Header" }
        [.node { qname := "Issuer", name := "Issuer" } []],
       .node { qname := "Line", name := "Line" } []],
     .node { qname := "State", name := "State", kind := .enumeration } []]
  modules := [("fiscal.invoices", ["Invoice"]), ("fiscal.types", ["State", "Issuer"])]

theorem invoice_model_holds :
    ((ClassTree.declsAll invoiceBundle.classes).map (·.qname)).Nodup ∧
    (∀ group ∈ invoiceBundle.modules ++ invoiceBundle.packages, ∀ qname ∈ group.2,
      qname ∈ (ClassTree.declsAll invoiceBundle.classes).map (·.qname)) ∧
    ∃ m, invoiceBundle.model = .ok m ∧ m.forest.Holds invoiceBundle.classes ∧
      m.forest.named m.modules =
        [("fiscal.invoices", ["Invoice"]), ("fiscal.types", ["State", "Issuer"])] := by
  have hnames : ((ClassTree.declsAll invoiceBundle.classes).map (·.qname)).Nodup := by decide
  have hknown : ∀ group ∈ invoiceBundle.modules ++ invoiceBundle.packages, ∀ qname ∈ group.2,
      qname ∈ (ClassTree.declsAll invoiceBundle.classes).map (·.qname) := by decide
  obtain ⟨m, hm, hholds, hmodules, -⟩ := exists_model_holds hnames hknown
  exact ⟨hnames, hknown, m, hm, hholds, hmodules (List.cons_ne_nil _ _)⟩

end Bundle
end SchemaModels

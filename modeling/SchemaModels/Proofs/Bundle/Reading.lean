/-
What is read from a bundle fits its types.

A reader may fail in many ways, but what it gives back has passed its checks.  `Yields P reader`
says this for one property of the value, and is carried through the entries of a record by the
record read so far.  The property here is that all bounds of attributes are words: it goes from the
attributes through the classes to the bundle, and merging attributes keeps it.
-/
import SchemaModels.Bundle.Reading
import SchemaModels.Proofs.Forest.Layout
import SchemaModels.Proofs.Merge.Bounds
import SchemaModels.Proofs.Text.Numeral

namespace SchemaModels

/-! ## Readers -/

namespace Reading

variable {α β σ : Type} {P : α → Prop}

/-- Whatever is read has the property. -/
def Yields (P : α → Prop) (reader : Reading α) : Prop :=
  ∀ doc jumps a rest, (reader.run doc).run jumps = .ok (a, rest) → P a

theorem yields_pure {a : α} (h : P a) : Yields P (pure a) := by
  intro doc jumps b rest hread
  cases hread
  exact h

theorem yields_unfit : Yields P unfit := by
  intro doc jumps a rest hread
  cases hread

theorem yields_fault (f : BundleFault) : Yields P (fault f) := by
  intro doc jumps a rest hread
  cases hread

theorem Yields.bind {Q : β → Prop} {reader : Reading β} {next : β → Reading α}
    (h : Yields Q reader) (hnext : ∀ b, Q b → Yields P (next b)) : Yields P (reader >>= next) := by
  intro doc jumps a rest hread
  have hrun : ((reader >>= next).run doc).run jumps =
      (reader.run doc).run jumps >>= fun result => ((next result.1).run doc).run result.2 := rfl
  rw [hrun] at hread
  cases hfirst : (reader.run doc).run jumps with
  | error e =>
    rw [hfirst] at hread
    cases hread
  | ok result =>
    rw [hfirst] at hread
    exact hnext result.1 (h doc jumps result.1 result.2 hfirst) doc result.2 a rest hread

theorem yields_bind {reader : Reading β} {next : β → Reading α}
    (hnext : ∀ b, Yields P (next b)) : Yields P (reader >>= next) :=
  Yields.bind (Q := fun _ => True) (fun _ _ _ _ _ => trivial) fun b _ => hnext b

theorem yields_once {known : Option α} (hknown : ∀ a ∈ known, P a) {reader : Reading α}
    (hreader : Yields P reader) : Yields (fun known => ∀ a ∈ known, P a) (once known reader) := by
  cases known with
  | some a => exact yields_unfit
  | none =>
    refine hreader.bind fun a ha => yields_pure ?_
    simpa using ha

theorem yields_required {known : Option α} (hknown : ∀ a ∈ known, P a) :
    Yields P (required known) := by
  cases known with
  | some a => exact yields_pure (hknown a rfl)
  | none => exact yields_unfit

theorem yields_scalar {as : Scalar → Option α} (has : ∀ s, ∀ a ∈ as s, P a) (node : Node) :
    Yields P (scalar as node) := by
  refine yields_bind fun meant => ?_
  split
  · exact yields_required (has _)
  · exact yields_unfit

/-- What every step of a fold keeps, the fold keeps. -/
theorem yields_foldlM {P : σ → Prop} {step : σ → β → Reading σ}
    (hstep : ∀ s b, P s → Yields P (step s b)) (items : List β) :
    ∀ {start : σ}, P start → Yields P (items.foldlM step start) := by
  induction items with
  | nil => exact fun hstart => yields_pure hstart
  | cons first items ih =>
    intro start hstart
    rw [List.foldlM_cons]
    exact (hstep start first hstart).bind fun next hnext => ih hnext

theorem yields_record {P : σ → Prop} {entry : σ → String → Node → Reading σ}
    (hentry : ∀ s key value, P s → Yields P (entry s key value)) {start : σ} (hstart : P start)
    (room : Nat) (node : Node) : Yields P (record room entry start node) := by
  refine yields_bind fun meant => ?_
  split
  · split
    · exact yields_unfit
    · exact yields_foldlM
        (fun s pair hs => yields_bind fun key => hentry s key pair.2 hs) _ hstart
  · split
    · exact yields_pure hstart
    · exact yields_unfit
  · exact yields_unfit

theorem yields_mapM {item : Node → Reading α} (hitem : ∀ node, Yields P (item node))
    (nodes : List Node) : Yields (fun items => ∀ a ∈ items, P a) (nodes.mapM item) := by
  induction nodes with
  | nil =>
    rw [List.mapM_nil]
    exact yields_pure (List.forall_mem_nil P)
  | cons node nodes ih =>
    rw [List.mapM_cons]
    exact (hitem node).bind fun a ha => ih.bind fun items hitems =>
      yields_pure (List.forall_mem_cons.mpr ⟨ha, hitems⟩)

theorem yields_list {item : Node → Reading α} (hitem : ∀ node, Yields P (item node)) (room : Nat)
    (node : Node) : Yields (fun items => ∀ a ∈ items, P a) (list room item node) := by
  refine yields_bind fun meant => ?_
  split
  · split
    · exact yields_unfit
    · exact yields_mapM hitem _
  · split
    · exact yields_pure (List.forall_mem_nil P)
    · exact yields_unfit
  · exact yields_unfit

/-! ## Bounds -/

theorem yields_natural (limit : Nat) (node : Node) : Yields (· < limit) (natural limit node) := by
  refine yields_scalar (fun s n hn => ?_) node
  simpa using (Option.filter_eq_some_iff.mp hn).2

theorem yields_maxOccurs (node : Node) : Yields MaxOccurs.InWord (maxOccurs node) := by
  refine yields_bind fun value => ?_
  cases value with
  | absent => exact yields_pure trivial
  | natural n =>
    by_cases hword : n < Text.wordLimit
    · simp only [hword, if_true]
      exact yields_pure hword
    · simp only [hword, if_false]
      exact yields_unfit
  | text s =>
    by_cases hnone : s = "unbounded"
    · simp only [hnone, if_true]
      exact yields_pure trivial
    · simp only [hnone, if_false]
      cases hnumeral : Text.numeral? Text.wordLimit s.toList with
      | some n => exact yields_pure (Text.lt_of_numeral? hnumeral)
      | none => exact yields_fault _
  | other => exact yields_unfit

/-- The bounds of the entries that have been read are words. -/
def AttributeEntries.HaveWordBounds (known : AttributeEntries) : Prop :=
  (∀ n ∈ known.minOccurs, n < Text.wordLimit) ∧ ∀ m ∈ known.maxOccurs, m.InWord

theorem yields_attrEntry (depth : Nat) {known : AttributeEntries} (hknown : known.HaveWordBounds)
    (key : String) (value : Node) :
    Yields AttributeEntries.HaveWordBounds (attrEntry depth known key value) := by
  unfold attrEntry
  split
  case h_4 =>
    exact (yields_once hknown.1 (yields_natural _ value)).bind fun n hn =>
      yields_pure ⟨hn, hknown.2⟩
  case h_5 =>
    exact (yields_once hknown.2 (yields_maxOccurs value)).bind fun m hm =>
      yields_pure ⟨hknown.1, hm⟩
  all_goals exact yields_bind fun _ => yields_pure hknown

/-- Every attribute that is read has words as bounds. -/
theorem yields_attr (depth : Nat) (node : Node) :
    Yields Attribute.HasWordBounds (attr depth node) := by
  have hstart : ({} : AttributeEntries).HaveWordBounds := by simp [AttributeEntries.HaveWordBounds]
  have hrecord := yields_record (fun known key value hknown =>
    yields_attrEntry (depth - 1) hknown key value) hstart depth node
  refine hrecord.bind fun known hknown => yields_bind fun name => yields_bind fun types =>
    yields_pure ⟨?_, ?_⟩
  · cases hmin : known.minOccurs with
    | none => simp [Text.wordLimit]
    | some n => exact hknown.1 n hmin
  · cases hmax : known.maxOccurs with
    | none => simp [MaxOccurs.InWord, Text.wordLimit]
    | some m => exact hknown.2 m hmax

/-! ## Bundles -/

/-- The attributes of all these classes have words as bounds. -/
def HaveWordBounds (decls : List ClassDecl) : Prop :=
  ∀ d ∈ decls, ∀ a ∈ d.attributes, a.HasWordBounds

theorem haveWordBounds_declsAll {trees : List ClassTree}
    (h : ∀ tree ∈ trees, HaveWordBounds tree.decls) :
    HaveWordBounds (ClassTree.declsAll trees) := by
  induction trees with
  | nil => exact List.forall_mem_nil _
  | cons tree trees ih =>
    obtain ⟨htree, htrees⟩ := List.forall_mem_cons.mp h
    rw [ClassTree.declsAll]
    exact List.forall_mem_append.mpr ⟨htree, ih htrees⟩

def ClassEntries.HaveWordBounds (known : ClassEntries) : Prop :=
  (∀ attrs ∈ known.attributes, ∀ a ∈ attrs, a.HasWordBounds) ∧
    ∀ trees ∈ known.inner, ∀ tree ∈ trees, Reading.HaveWordBounds tree.decls

theorem yields_classEntry (depth : Nat) {nested : Node → Reading ClassTree}
    (hnested : ∀ node, Yields (fun tree => HaveWordBounds tree.decls) (nested node))
    {known : ClassEntries} (hknown : known.HaveWordBounds) (key : String) (value : Node) :
    Yields ClassEntries.HaveWordBounds (classEntry depth nested known key value) := by
  unfold classEntry
  split
  case h_6 =>
    exact (yields_once hknown.1 (yields_list (yields_attr _) depth value)).bind fun attrs hattrs =>
      yields_pure ⟨hattrs, hknown.2⟩
  case h_8 =>
    exact (yields_once hknown.2 (yields_list hnested depth value)).bind fun trees htrees =>
      yields_pure ⟨hknown.1, htrees⟩
  all_goals exact yields_bind fun _ => yields_pure hknown

theorem yields_assembleClass {known : ClassEntries} (hknown : known.HaveWordBounds) :
    Yields (fun tree => HaveWordBounds tree.decls) (assembleClass known) := by
  refine yields_bind fun qname => yields_bind fun name => yields_pure ?_
  rw [ClassTree.decls]
  refine List.forall_mem_cons.mpr ⟨?_, haveWordBounds_declsAll ?_⟩
  · cases hattrs : known.attributes with
    | none => exact List.forall_mem_nil _
    | some attrs => exact hknown.1 attrs hattrs
  · cases hinner : known.inner with
    | none => exact List.forall_mem_nil _
    | some trees => exact hknown.2 trees hinner

theorem yields_classNode (depth : Nat) {nested : Node → Reading ClassTree}
    (hnested : ∀ node, Yields (fun tree => HaveWordBounds tree.decls) (nested node)) (node : Node) :
    Yields (fun tree => HaveWordBounds tree.decls) (classNode depth nested node) := by
  have hstart : ({} : ClassEntries).HaveWordBounds := by simp [ClassEntries.HaveWordBounds]
  have hrecord := yields_record (fun known key value hknown =>
    yields_classEntry depth hnested hknown key value) hstart (depth + 1) node
  exact hrecord.bind fun known hknown => yields_assembleClass hknown

theorem yields_classTree : ∀ (depth : Nat) (node : Node),
    Yields (fun tree => HaveWordBounds tree.decls) (classTree depth node)
  | 0, _ => yields_unfit
  | 1, node => yields_classNode 0 (fun _ => yields_unfit) node
  | below + 2, node => yields_classNode (below + 1) (yields_classTree below) node

def BundleEntries.HaveWordBounds (known : BundleEntries) : Prop :=
  ∀ trees ∈ known.classes, ∀ tree ∈ trees, Reading.HaveWordBounds tree.decls

theorem yields_bundleEntry (depth : Nat) {known : BundleEntries} (hknown : known.HaveWordBounds)
    (key : String) (value : Node) :
    Yields BundleEntries.HaveWordBounds (bundleEntry depth known key value) := by
  unfold bundleEntry
  split
  case h_1 =>
    exact (yields_once hknown (yields_list (yields_classTree _) depth value)).bind
      fun trees htrees => yields_pure htrees
  all_goals exact yields_bind fun _ => yields_pure hknown

theorem yields_bundle (depth : Nat) (node : Node) :
    Yields (fun b : Bundle => HaveWordBounds (ClassTree.declsAll b.classes))
      (bundle depth node) := by
  have hstart : ({} : BundleEntries).HaveWordBounds := by simp [BundleEntries.HaveWordBounds]
  have hrecord := yields_record (fun known key value hknown =>
    yields_bundleEntry (depth - 1) hknown key value) hstart depth node
  exact hrecord.bind fun known hknown => (yields_required hknown).bind fun trees htrees =>
    yields_pure (haveWordBounds_declsAll htrees)

end Reading

/-! ## Texts -/

theorem Document.of_decode {α : Type} {P : α → Prop} {reader : Nat → Node → Reading α}
    (h : ∀ depth node, Reading.Yields P (reader depth node)) {doc : Document} {a : α}
    (hread : doc.decode reader = .ok a) : P a := by
  unfold Document.decode at hread
  cases hrun : ((reader doc.depth doc.root).run doc).run doc.jumps with
  | error e =>
    rw [hrun] at hread
    cases hread
  | ok result =>
    rw [hrun] at hread
    by_cases hsound : doc.sound = true
    · simp only [hsound, if_true] at hread
      obtain rfl := Except.ok.inj hread
      exact h doc.depth doc.root doc doc.jumps result.1 result.2 hrun
    · simp only [hsound] at hread
      cases hread

theorem Bundle.haveWordBounds_of_ofText {format : BundleFormat} {text : String} {b : Bundle}
    (h : Bundle.ofText format text = .ok b) :
    Reading.HaveWordBounds (ClassTree.declsAll b.classes) := by
  unfold Bundle.ofText at h
  cases hread : (Document.ofText format text).decode Reading.bundle with
  | error e =>
    rw [hread] at h
    cases h
  | ok read =>
    rw [hread] at h
    obtain rfl := Except.ok.inj h
    exact Document.of_decode Reading.yields_bundle hread

/-- However the repeated attributes of a model are merged, no bound leaves the words. -/
theorem Model.hasWordBounds_of_mem_merge {format : BundleFormat} {text : String} {m : Model}
    (h : Model.ofText format text = .ok m) (policy : MergePolicy) {id : Nat} {c : SchemaClass}
    (hc : (m.forest.merge policy).get? id = some c) : ∀ a ∈ c.attributes, a.HasWordBounds := by
  obtain ⟨b, hb, hm⟩ := exists_ok_of_bind h
  rw [Forest.merge, Forest.get?_mapAttributes, Option.map_eq_some_iff] at hc
  obtain ⟨d, hd, rfl⟩ := hc
  rw [Bundle.model_forest hm] at hd
  have hdecl : d.toClassDecl ∈ ClassTree.declsAll b.classes := by
    rw [← Forest.map_toClassDecl_ofTrees]
    exact List.mem_map_of_mem (Array.mem_toList_iff.mpr (Array.mem_of_getElem? hd))
  have hread := Bundle.haveWordBounds_of_ofText hb d.toClassDecl hdecl
  exact fun a => Attribute.hasWordBounds_of_mem_merge hread

end SchemaModels

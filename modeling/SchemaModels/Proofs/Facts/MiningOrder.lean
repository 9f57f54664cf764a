/-
Schema files looked into in any order.

A table can depend on the order of the lineages in two ways: lineages of one class can teach
different things, of which the first counts, and different classes can teach different facts under
one key, of which the last counts.  Where neither happens the order is irrelevant.  A class that is
nested in another and stands among the roots as well has two lineages, and the short one need not
lead anywhere.
-/
import Mathlib.Data.List.Basic
import SchemaModels.Occurrence
import SchemaModels.Proofs.Facts.Mining
import SchemaModels.Proofs.Forest.Links

namespace SchemaModels
namespace FactTable

variable {f : Forest} {files : SchemaFiles} {lineages : List (List Nat)} {key : String} {id : Nat}
  {c : SchemaClass}

/-! ## Settled facts -/

/-- All that is taught under a key is one fact, and there is a class of which every lineage teaches
it. -/
structure TeachesOnly (f : Forest) (files : SchemaFiles) (lineages : List (List Nat))
    (key : String) (fact : Fact) : Prop where
  only : ∀ l ∈ lineages, ∀ other, taughtFact? f files l key = some other → other = fact
  always : ∃ l ∈ lineages, ∀ k ∈ lineages, k.getLast? = l.getLast? →
    taughtFact? f files k key = some fact

/-- Under a key nothing is taught, or one fact. -/
def IsSettled (f : Forest) (files : SchemaFiles) (lineages : List (List Nat)) (key : String) :
    Prop :=
  (∀ l ∈ lineages, taughtFact? f files l key = none) ∨
    ∃ fact, TeachesOnly f files lineages key fact

theorem TeachesOnly.lookup {fact : Fact} (h : TeachesOnly f files lineages key fact) :
    (mineAll f files {} lineages).facts.lookup key = some fact := by
  obtain ⟨l, hl, halways⟩ := h.always
  obtain ⟨before, first, after, hsplit, hend, hbefore⟩ := exists_first hl
  have hfirst : first ∈ lineages := hsplit ▸ by simp
  have hsome : ((mineAll f files {} lineages).facts.lookup key).isSome = true := by
    rw [hsplit]
    exact facts_isSome_of_first (hend ▸ hbefore) (halways first hfirst hend)
  obtain ⟨other, hother⟩ := Option.isSome_iff_exists.mp hsome
  rcases facts_mineAll_source hother with hnone | ⟨k, hk, htaught⟩
  · exact absurd hnone (by simp)
  · rw [hother, h.only k hk other htaught]

theorem TeachesOnly.of_perm {fact : Fact} (h : TeachesOnly f files lineages key fact)
    {other : List (List Nat)} (hperm : other.Perm lineages) :
    TeachesOnly f files other key fact := by
  obtain ⟨l, hl, halways⟩ := h.always
  exact ⟨fun k hk => h.only k (hperm.mem_iff.mp hk),
    l, hperm.mem_iff.mpr hl, fun k hk => halways k (hperm.mem_iff.mp hk)⟩

/-- The lineages of one class moved behind the others, one of them first. -/
theorem perm_last_class {l : List Nat} (hl : l ∈ lineages) :
    ((lineages.filter fun k => k.getLast? != l.getLast?) ++
      l :: (lineages.filter fun k => k.getLast? == l.getLast?).erase l).Perm lineages := by
  have hclass : l ∈ lineages.filter fun k => k.getLast? == l.getLast? :=
    List.mem_filter.mpr ⟨hl, beq_self_eq_true _⟩
  have hsplit : ((lineages.filter fun k => k.getLast? != l.getLast?) ++
      lineages.filter fun k => k.getLast? == l.getLast?).Perm lineages := by
    refine List.perm_append_comm.trans ?_
    exact List.filter_append_perm _ lineages
  exact ((List.perm_cons_erase hclass).symm.append_left _).trans hsplit

/-- Whatever a lineage teaches is what is known after some order: the one in which its class comes
last, and the lineage first of those of the class. -/
theorem exists_order_of_taughtFact? {l : List Nat} (hl : l ∈ lineages) {fact : Fact}
    (htaught : taughtFact? f files l key = some fact) :
    ∃ other : List (List Nat), other.Perm lineages ∧
      (mineAll f files {} other).facts.lookup key = some fact := by
  obtain ⟨id, c, hsubject⟩ := exists_subject_of_taughtFact? htaught
  have hend := (subject?_eq_some_iff.mp hsubject).1
  refine ⟨_, perm_last_class hl, ?_⟩
  have hdue : id ∉ (mineAll f files {}
      (lineages.filter fun k => k.getLast? != l.getLast?)).mined := by
    refine due_after f files hend fun k hk => ?_
    simpa using (List.mem_filter.mp hk).2
  rw [mineAll_append, mineAll_cons, mineAll_of_passed, lookup_facts_mine hsubject hdue, htaught]
  · rfl
  · intro k hk i d hd
    have hsame : k.getLast? = l.getLast? := by
      simpa using (List.mem_filter.mp (List.mem_of_mem_erase hk)).2
    have hid : id = i :=
      Option.some.inj (hend.symm.trans (hsame.symm.trans (subject?_eq_some_iff.mp hd).1))
    exact mem_mined_mine.mpr (Or.inr ⟨c, hid ▸ hsubject⟩)

/-- If every class has a lineage that teaches nothing under a key, there is an order in which
nothing is learned under it: these lineages come first. -/
theorem exists_order_of_silent
    (h : ∀ l ∈ lineages, ∃ k ∈ lineages, k.getLast? = l.getLast? ∧
      taughtFact? f files k key = none) :
    ∃ other : List (List Nat), other.Perm lineages ∧
      (mineAll f files {} other).facts.lookup key = none := by
  refine ⟨_, List.filter_append_perm (fun k => (taughtFact? f files k key).isNone) lineages, ?_⟩
  rw [mineAll_append, mineAll_of_passed]
  · exact facts_of_silent fun k hk => Option.isNone_iff_eq_none.mp (List.mem_filter.mp hk).2
  · intro l hl id c hsubject
    -- The class was looked up by a lineage that teaches nothing.
    obtain ⟨k, hk, hend, hsilent⟩ := h l (List.mem_of_mem_filter hl)
    obtain ⟨hid, hc, hcomplex⟩ := subject?_eq_some_iff.mp hsubject
    refine mem_mined_mineAll.mpr (Or.inr ⟨k, List.mem_filter.mpr ⟨hk, ?_⟩, c, ?_⟩)
    · rw [hsilent]
      rfl
    · exact subject?_eq_some_iff.mpr ⟨hend.trans hid, hc, hcomplex⟩

/-- The fact under a key is the same in any order just if the key is settled. -/
theorem facts_perm_iff :
    (∀ other : List (List Nat), other.Perm lineages →
      (mineAll f files {} other).facts.lookup key =
        (mineAll f files {} lineages).facts.lookup key) ↔ IsSettled f files lineages key := by
  constructor
  · intro hperm
    cases hlookup : (mineAll f files {} lineages).facts.lookup key with
    | none =>
      refine Or.inl fun l hl => ?_
      cases htaught : taughtFact? f files l key with
      | none => rfl
      | some fact =>
        obtain ⟨other, hother, hfact⟩ := exists_order_of_taughtFact? hl htaught
        rw [hperm other hother, hlookup] at hfact
        exact hfact.symm
    | some fact =>
      have honly : ∀ l ∈ lineages, ∀ other, taughtFact? f files l key = some other →
          other = fact := by
        intro l hl other htaught
        obtain ⟨order, horder, hfact⟩ := exists_order_of_taughtFact? hl htaught
        rw [hperm order horder, hlookup] at hfact
        exact (Option.some.inj hfact).symm
      refine Or.inr ⟨fact, honly, ?_⟩
      -- Otherwise every class has a silent lineage, and with these in front nothing is learned.
      by_contra hnever
      have hsilent : ∀ l ∈ lineages, ∃ k ∈ lineages, k.getLast? = l.getLast? ∧
          taughtFact? f files k key = none := by
        intro l hl
        by_contra hloud
        refine hnever ⟨l, hl, fun k hk hend => ?_⟩
        cases htaught : taughtFact? f files k key with
        | none => exact absurd ⟨k, hk, hend, htaught⟩ hloud
        | some other => rw [honly k hk other htaught]
      obtain ⟨order, horder, hnone⟩ := exists_order_of_silent hsilent
      rw [hperm order horder, hlookup] at hnone
      exact absurd hnone (Option.some_ne_none fact)
  · rintro (hnone | ⟨fact, h⟩) other hother
    · rw [facts_of_silent hnone, facts_of_silent fun l hl => hnone l (hother.mem_iff.mp hl)]
    · rw [(h.of_perm hother).lookup, h.lookup]

/-! ## Agreement -/

/-- Where all that is taught under a key is taught by one class, the key is settled just if the
lineages of that class agree. -/
theorem isSettled_iff_agree (hone : ∀ l ∈ lineages, ∀ k ∈ lineages,
      taughtFact? f files l key ≠ none → taughtFact? f files k key ≠ none →
        l.getLast? = k.getLast?) :
    IsSettled f files lineages key ↔ ∀ l ∈ lineages, ∀ k ∈ lineages, l.getLast? = k.getLast? →
      taughtFact? f files l key = taughtFact? f files k key := by
  constructor
  · rintro (hnone | ⟨fact, honly, first, hfirst, halways⟩) l hl k hk hend
    · rw [hnone l hl, hnone k hk]
    · have hother : ∀ j ∈ lineages, j.getLast? ≠ first.getLast? →
          taughtFact? f files j key = none := by
        intro j hj hne
        by_contra htaught
        refine hne (hone j hj first hfirst htaught ?_)
        rw [halways first hfirst rfl]
        exact Option.some_ne_none fact
      by_cases hclass : l.getLast? = first.getLast?
      · rw [halways l hl hclass, halways k hk (hend.symm.trans hclass)]
      · rw [hother l hl hclass, hother k hk fun h => hclass (hend.trans h)]
  · intro hagree
    by_cases htaught : ∃ l ∈ lineages, ∃ fact, taughtFact? f files l key = some fact
    · obtain ⟨l, hl, fact, htaught⟩ := htaught
      refine Or.inr ⟨fact, fun k hk other hother => ?_, l, hl, fun k hk hend => ?_⟩
      · have hend : k.getLast? = l.getLast? :=
          hone k hk l hl (hother ▸ Option.some_ne_none other) (htaught ▸ Option.some_ne_none fact)
        rw [hagree k hk l hl hend, htaught] at hother
        exact (Option.some.inj hother).symm
      · rw [hagree k hk l hl hend, htaught]
    · refine Or.inl fun l hl => ?_
      cases hl' : taughtFact? f files l key with
      | none => rfl
      | some fact => exact absurd ⟨l, hl, fact, hl'⟩ htaught

theorem docs_perm_iff (hc : f.get? id = some c) (hdoc : c.documentation = none) :
    (∀ other : List (List Nat), other.Perm lineages →
      (mineAll f files {} other).docs.lookup id = (mineAll f files {} lineages).docs.lookup id) ↔
    ∀ l ∈ lineages, ∀ k ∈ lineages, l.getLast? = some id → k.getLast? = some id →
      taughtDoc? f files l = taughtDoc? f files k := by
  constructor
  · intro hperm
    have hfirst : ∀ l ∈ lineages, l.getLast? = some id →
        (mineAll f files {} lineages).docs.lookup id = taughtDoc? f files l := by
      intro l hl hend
      have hfind : (l :: lineages.erase l).find? (fun k => k.getLast? == some id) = some l :=
        List.find?_cons_of_pos (beq_iff_eq.mpr hend)
      rw [← hperm _ (List.perm_cons_erase hl).symm, docs_mineAll hc hdoc, hfind]
      rfl
    intro l hl k hk hlend hkend
    rw [← hfirst l hl hlend, hfirst k hk hkend]
  · intro hagree other hother
    rw [docs_mineAll hc hdoc, docs_mineAll hc hdoc]
    cases hfirst : lineages.find? fun l => l.getLast? == some id with
    | none =>
      rw [List.find?_eq_none.mpr fun l hl =>
        List.find?_eq_none.mp hfirst l (hother.mem_iff.mp hl)]
    | some first =>
      have hmem := List.mem_of_find?_eq_some hfirst
      have hend : first.getLast? = some id := by simpa using List.find?_some hfirst
      have hsome : (other.find? fun l => l.getLast? == some id).isSome = true :=
        List.find?_isSome.mpr ⟨first, hother.mem_iff.mpr hmem, beq_iff_eq.mpr hend⟩
      obtain ⟨first', hfirst'⟩ := Option.isSome_iff_exists.mp hsome
      have hmem' := hother.mem_iff.mp (List.mem_of_find?_eq_some hfirst')
      have hend' : first'.getLast? = some id := by simpa using List.find?_some hfirst'
      rw [hfirst']
      exact hagree first' hmem' first hmem hend' hend

/-- The lineages of a class leave nothing to the order in which they are met. -/
structure IsTaughtAlike (f : Forest) (files : SchemaFiles) (lineages : List (List Nat)) (id : Nat)
    (c : SchemaClass) : Prop where
  facts : ∀ name, IsSettled f files lineages (factKey c.qname name)
  documentation : c.documentation = none → ∀ l ∈ lineages, ∀ k ∈ lineages,
    l.getLast? = some id → k.getLast? = some id → taughtDoc? f files l = taughtDoc? f files k

/-- What is known of all classes is the same in any order of the lineages just if the facts of every
class are settled and all lineages of a class without documentation of its own teach it the same. -/
theorem known_in_any_order_iff (f : Forest) (files : SchemaFiles) (lineages : List (List Nat)) :
    (∀ other : List (List Nat), other.Perm lineages → ∀ id c, f.get? id = some c →
      (∀ name, (mineAll f files {} other).get? c name = (mineAll f files {} lineages).get? c name) ∧
        (mineAll f files {} other).documentation id c =
          (mineAll f files {} lineages).documentation id c) ↔
    ∀ id c, f.get? id = some c → IsTaughtAlike f files lineages id c := by
  constructor
  · intro hperm id c hc
    constructor
    case facts =>
      exact fun name => facts_perm_iff.mp fun other hother => (hperm other hother id c hc).1 name
    case documentation =>
      intro hdoc
      refine (docs_perm_iff hc hdoc).mp fun other hother => ?_
      have hdocs := (hperm other hother id c hc).2
      rw [FactTable.documentation, FactTable.documentation, hdoc] at hdocs
      exact hdocs
  · intro halike other hother id c hc
    refine ⟨fun name => facts_perm_iff.mpr ((halike id c hc).facts name) other hother, ?_⟩
    rw [FactTable.documentation, FactTable.documentation]
    cases hdoc : c.documentation with
    | some doc => rfl
    | none => exact (docs_perm_iff hc hdoc).mpr ((halike id c hc).documentation hdoc) other hother

/-- A class with another one inside, both declared in one schema file. -/
def orderBundle : Bundle where
  classes :=
    [.node { qname := "Order", name := "Order", location := some "order.xsd" }
      [.node { qname := "Order.Line", name := "Line", location := some "order.xsd" } []]]

def orderFiles : SchemaFiles :=
  [("order.xsd", .node "schema" [] ""
    [.node "complexType" [("name", "Order")] ""
      [.node "element" [("name", "Line")] ""
        [.node "annotation" [] "" [.node "documentation" [] "One line of the order" []],
         .node "complexType" [] ""
           [.node "attribute" [("name", "item"), ("type", "Item")] "" []]]]])]

/-- The lineages of all classes that are reached from the given roots. -/
def lineagesFrom (f : Forest) (roots : List Nat) : List (List Nat) :=
  (f.occurrences roots).map Occurrence.lineage

def tableFrom (f : Forest) (files : SchemaFiles) (roots : List Nat) : FactTable :=
  mineAll f files {} (lineagesFrom f roots)

/-- If the inner class is the first of the roots, nothing becomes known of it. -/
theorem inner_class_first_stays_unknown :
    ∃ m c, orderBundle.model = .ok m ∧ m.forest.get? 1 = some c ∧
      (lineagesFrom m.forest [1, 0]).Perm (lineagesFrom m.forest [0, 1]) ∧
      ((tableFrom m.forest orderFiles [0, 1]).get? c "item" = some { type := some "Item" } ∧
        (tableFrom m.forest orderFiles [0, 1]).documentation 1 c = some "One line of the order") ∧
      ((tableFrom m.forest orderFiles [1, 0]).get? c "item" = none ∧
        (tableFrom m.forest orderFiles [1, 0]).documentation 1 c = none) ∧
      ¬ ∀ id c, m.forest.get? id = some c →
        IsTaughtAlike m.forest orderFiles (lineagesFrom m.forest [0, 1]) id c := by
  obtain ⟨m, hm, hcheck⟩ := orderBundle.exists_model
    (fun m => ∃ c ∈ m.forest.get? 1,
      (lineagesFrom m.forest [1, 0]).Perm (lineagesFrom m.forest [0, 1]) ∧
      ((tableFrom m.forest orderFiles [0, 1]).get? c "item" = some { type := some "Item" } ∧
        (tableFrom m.forest orderFiles [0, 1]).documentation 1 c = some "One line of the order") ∧
      (tableFrom m.forest orderFiles [1, 0]).get? c "item" = none ∧
        (tableFrom m.forest orderFiles [1, 0]).documentation 1 c = none)
    (by decide +kernel)
  obtain ⟨c, hc, hperm, hknown, hunknown⟩ := of_decide_eq_true hcheck
  refine ⟨m, c, hm, hc, hperm, hknown, hunknown, fun halike => ?_⟩
  have hsame := ((known_in_any_order_iff _ _ _).mpr halike _ hperm 1 c hc).1 "item"
  exact absurd (hunknown.1.symm.trans (hsame.trans hknown.1)) (by simp)

end FactTable
end SchemaModels

/-
Occurrences in a linked forest are told apart by their class and their dotted path.

The lineage of an occurrence is a piece of the lineage of its class, from the root that was given
down to the class, and its path holds the names along it.  Names have no dots, so equal dotted paths
are equal paths; these have one length, and two pieces of one lineage that end together and have one
length are equal.  `eq_of_site_eq` says the outcome: whatever roots two occurrences were reached
from, if they are filed under one class and dotted path they are one occurrence.
-/
import Mathlib.Data.List.Chain
import SchemaModels.Occurrence
import SchemaModels.Proofs.ClassName
import SchemaModels.Proofs.Forest.Links
import SchemaModels.Proofs.Forest.Walk

namespace SchemaModels
namespace Forest

/-! ## Ways down -/

/-- What an occurrence says of the way down to its class: the lineage follows the inner lists and
ends in the class, and the path holds the names along it. -/
structure IsOccurrence (f : Forest) (o : Occurrence) : Prop where
  known : o.id < f.size
  ends : ∃ enclosing, o.lineage = enclosing ++ [o.id]
  chain : o.lineage.IsChain f.Nests
  path_eq : o.path = o.lineage.map f.pathName

theorem isOccurrence_root {f : Forest} {id : Nat} (h : id < f.size) :
    f.IsOccurrence (f.rootOccurrence id) where
  known := h
  ends := ⟨[], rfl⟩
  chain := List.isChain_singleton id
  path_eq := rfl

theorem pairwise_of_chain {f : Forest} {way : List Nat}
    (h : way.IsChain f.Nests) : way.Pairwise (· < ·) :=
  List.isChain_iff_pairwise.mp (h.imp fun _ _ hj => (lt_of_mem_innerOf hj).1)

theorem IsOccurrence.lt_size_of_mem_lineage {f : Forest} {o : Occurrence} (ho : f.IsOccurrence o) :
    o.id ∈ o.lineage ∧ ∀ id ∈ o.lineage, id < f.size := by
  obtain ⟨enclosing, hends⟩ := ho.ends
  have hpairwise := pairwise_of_chain ho.chain
  rw [hends] at hpairwise ⊢
  refine ⟨List.mem_append_right _ (List.mem_singleton_self _), fun id hid => ?_⟩
  rcases List.mem_append.mp hid with hid | hid
  · have hbefore := (List.pairwise_append.mp hpairwise).2.2 id hid o.id (List.mem_singleton_self _)
    exact Nat.lt_trans hbefore ho.known
  · rw [List.mem_singleton.mp hid]
    exact ho.known

theorem IsOccurrence.extend {f : Forest} {o : Occurrence} (ho : f.IsOccurrence o) {id : Nat}
    (hid : id ∈ f.innerOf o.id) : f.IsOccurrence (f.innerOccurrence o id) := by
  obtain ⟨enclosing, hends⟩ := ho.ends
  refine ⟨(lt_of_mem_innerOf hid).2, ⟨o.lineage, rfl⟩, ?_, ?_⟩
  · refine List.isChain_append.mpr ⟨ho.chain, List.isChain_singleton id, ?_⟩
    intro last hlast first hfirst
    rw [hends, List.getLast?_concat] at hlast
    obtain rfl : o.id = last := Option.some.inj hlast
    obtain rfl : id = first := Option.some.inj hfirst
    exact hid
  · rw [innerOccurrence, List.map_append, ← ho.path_eq]
    rfl

/-- Nested classes stand behind those around them, so the check for a class that would be met twice
on one way never applies. -/
theorem IsOccurrence.innerOccurrences_eq {f : Forest} {o : Occurrence} (ho : f.IsOccurrence o) :
    f.innerOccurrences o = (f.innerOf o.id).map (f.innerOccurrence o) := by
  refine congrArg (List.map _) (List.filter_eq_self.mpr fun id hid => ?_)
  have hbefore := (List.pairwise_append.mp (pairwise_of_chain (ho.extend hid).chain)).2.2
  have hnew : id ∉ o.lineage := fun hin =>
    Nat.lt_irrefl id (hbefore id hin id (List.mem_singleton.mpr rfl))
  simpa using hnew

theorem IsOccurrence.mem_inner_iff {f : Forest} {o p : Occurrence} (ho : f.IsOccurrence o) :
    p ∈ f.occurrenceNesting.inner o ↔ ∃ id ∈ f.innerOf o.id, f.innerOccurrence o id = p := by
  have hinner : f.occurrenceNesting.inner o = (f.innerOf o.id).map (f.innerOccurrence o) :=
    ho.innerOccurrences_eq
  rw [hinner, List.mem_map]

/-- The roots of a listing, with all that is nested in them. -/
def listed (f : Forest) (roots : List Nat) : List Occurrence :=
  f.occurrenceNesting.listing ((f.known roots).map f.rootOccurrence)

theorem isOccurrence_of_mem_listed {f : Forest} {roots : List Nat} {o : Occurrence}
    (ho : o ∈ f.listed roots) : f.IsOccurrence o := by
  obtain ⟨start, hstart, ho⟩ := Nesting.mem_listing_iff.mp ho
  obtain ⟨root, hroot, rfl⟩ := List.mem_map.mp hstart
  refine Nesting.preOrder_induction (P := f.IsOccurrence) (fun p hp q hq => ?_)
    (isOccurrence_root (mem_known_iff.mp hroot).2) o ho
  obtain ⟨id, hid, rfl⟩ := hp.mem_inner_iff.mp hq
  exact hp.extend hid

theorem isOccurrence_of_mem {f : Forest} {roots : List Nat} {o : Occurrence}
    (ho : o ∈ f.occurrences roots) : f.IsOccurrence o :=
  isOccurrence_of_mem_listed (Nesting.mem_of_mem_visit ho)

theorem IsOccurrence.exists_get? {f : Forest} {o : Occurrence} (ho : f.IsOccurrence o) :
    ∃ c, f.get? o.id = some c := ⟨_, Array.getElem?_eq_getElem ho.known⟩

theorem exists_enclosing {f : Forest} {roots : List Nat} {o : Occurrence}
    (ho : o ∈ f.occurrences roots) : ∃ enclosing, o.lineage = enclosing ++ [o.id] :=
  (isOccurrence_of_mem ho).ends

/-! ## Lineages -/

theorem Linked.suffix_of_chain {f : Forest} (hf : f.Linked) {id : Nat} {enclosing : List Nat}
    (h : (enclosing ++ [id]).IsChain f.Nests) :
    enclosing ++ [id] <:+ f.lineage id := by
  -- The induction goes up the way from its end, as lineages do.
  induction enclosing using List.reverseRecOn generalizing id with
  | nil => exact f.singleton_suffix_lineage id
  | append_singleton above i ih =>
    obtain ⟨habove, -, hlink⟩ := List.isChain_append.mp h
    have hid : id ∈ f.innerOf i := hlink i (by simp) id rfl
    obtain ⟨c, hc, hin⟩ := mem_innerOf_iff.mp hid
    exact hf.suffix_lineage_inner hc hin (ih habove)

theorem Linked.lineage_suffix {f : Forest} (hf : f.Linked) {o : Occurrence}
    (ho : f.IsOccurrence o) : o.lineage <:+ f.lineage o.id := by
  obtain ⟨enclosing, hends⟩ := ho.ends
  have hchain := ho.chain
  rw [hends] at hchain ⊢
  exact hf.suffix_of_chain hchain

/-! ## Dotted paths -/

theorem IsOccurrence.path_ne_nil {f : Forest} {o : Occurrence} (ho : f.IsOccurrence o) :
    o.path ≠ [] := by
  obtain ⟨enclosing, hends⟩ := ho.ends
  rw [ho.path_eq, hends]
  simp

theorem IsOccurrence.dot_not_mem_path {f : Forest} {o : Occurrence} (ho : f.IsOccurrence o) :
    ∀ name ∈ o.path, '.' ∉ name.toList := by
  intro name hname
  rw [ho.path_eq] at hname
  obtain ⟨id, -, rfl⟩ := List.mem_map.mp hname
  exact dot_not_mem_className _

/-- A list of names without dots can be read off their dotted join. -/
theorem eq_of_intercalate_eq {p q : List String} (hp : p ≠ []) (hq : q ≠ [])
    (hpd : ∀ name ∈ p, '.' ∉ name.toList) (hqd : ∀ name ∈ q, '.' ∉ name.toList)
    (h : ".".intercalate p = ".".intercalate q) : p = q := by
  have hps := String.toList_split_intercalate hpd
  have hqs := String.toList_split_intercalate hqd
  rw [if_neg hp] at hps
  rw [if_neg hq] at hqs
  rw [← hps, ← hqs]
  exact congrArg (fun s => (String.split s '.').toList.map (·.copy)) h

theorem IsOccurrence.path_eq_of_key_eq {f : Forest} {o p : Occurrence} (ho : f.IsOccurrence o)
    (hp : f.IsOccurrence p) (h : o.key = p.key) : o.path = p.path :=
  eq_of_intercalate_eq ho.path_ne_nil hp.path_ne_nil ho.dot_not_mem_path hp.dot_not_mem_path h

theorem path_eq_of_key_eq {f : Forest} {roots roots' : List Nat} {o p : Occurrence}
    (ho : o ∈ f.occurrences roots) (hp : p ∈ f.occurrences roots') (h : o.key = p.key) :
    o.path = p.path :=
  (isOccurrence_of_mem ho).path_eq_of_key_eq (isOccurrence_of_mem hp) h

/-- The dotted path says as much as the path. -/
theorem IsOccurrence.site_eq_iff {f : Forest} {o p : Occurrence} (ho : f.IsOccurrence o)
    (hp : f.IsOccurrence p) : o.site = p.site ↔ o.id = p.id ∧ o.path = p.path := by
  constructor
  · intro h
    exact ⟨congrArg Prod.fst h, ho.path_eq_of_key_eq hp (congrArg Prod.snd h)⟩
  · rintro ⟨hid, hpath⟩
    rw [Occurrence.site, Occurrence.site, Occurrence.key, Occurrence.key, hid, hpath]

theorem Linked.eq_of_site_eq {f : Forest} (hf : f.Linked) {o p : Occurrence}
    (ho : f.IsOccurrence o) (hp : f.IsOccurrence p) (h : o.site = p.site) : o = p := by
  obtain ⟨hid, hpath⟩ := (ho.site_eq_iff hp).mp h
  have hlen : o.lineage.length = p.lineage.length := by
    have := congrArg List.length hpath
    rwa [ho.path_eq, hp.path_eq, List.length_map, List.length_map] at this
  -- Both lineages end the lineage of the class and have one length.
  have hpiece : p.lineage <:+ f.lineage o.id := hid ▸ hf.lineage_suffix hp
  have hwithin : o.lineage <:+ p.lineage :=
    List.suffix_of_suffix_length_le (hf.lineage_suffix ho) hpiece (Nat.le_of_eq hlen)
  have hlineage : o.lineage = p.lineage := hwithin.eq_of_length hlen
  exact Occurrence.ext hid hlineage hpath

/-! ## The listing -/

theorem Linked.tellApart {f : Forest} (hf : f.Linked) (roots : List Nat) :
    Nesting.TellApart Occurrence.site (f.listed roots) := fun _ ho _ hp h =>
  hf.eq_of_site_eq (isOccurrence_of_mem_listed ho) (isOccurrence_of_mem_listed hp) h

/-- Whatever is met again, no occurrence is lost. -/
theorem Linked.mem_occurrences_iff {f : Forest} (hf : f.Linked) {roots : List Nat}
    {o : Occurrence} : o ∈ f.occurrences roots ↔ o ∈ f.listed roots :=
  Nesting.mem_visit_iff (hf.tellApart roots)

/-- A class has an occurrence just if it is reached. -/
theorem Linked.exists_occurrence_iff {f : Forest} (hf : f.Linked) {roots : List Nat} {id : Nat} :
    (∃ o ∈ f.occurrences roots, o.id = id) ↔ id < f.size ∧ f.Reaches roots id := by
  simp only [hf.mem_occurrences_iff]
  constructor
  · rintro ⟨o, ho, rfl⟩
    refine ⟨(isOccurrence_of_mem_listed ho).known, ?_⟩
    obtain ⟨start, hstart, ho⟩ := Nesting.mem_listing_iff.mp ho
    obtain ⟨root, hroot, rfl⟩ := List.mem_map.mp hstart
    refine ⟨root, (mem_known_iff.mp hroot).1, ?_⟩
    refine Nesting.preOrder_induction
      (P := fun p : Occurrence => Relation.ReflTransGen f.Nests root p.id)
      (fun p hp q hq => ?_) Relation.ReflTransGen.refl o ho
    obtain ⟨j, hj, rfl⟩ := List.mem_map.mp hq
    exact hp.tail (List.mem_of_mem_filter hj)
  · rintro ⟨hsize, root, hroot, hway⟩
    have hknown : root ∈ f.known roots :=
      mem_known_iff.mpr ⟨hroot, (lt_size_iff_of_reflTransGen hway).mpr hsize⟩
    clear hsize
    induction hway with
    | refl =>
      refine ⟨f.rootOccurrence root, ?_, rfl⟩
      exact Nesting.mem_listing_iff.mpr
        ⟨_, List.mem_map.mpr ⟨root, hknown, rfl⟩, Nesting.self_mem_preOrder _⟩
    | tail _ hlink ih =>
      obtain ⟨o, ho, rfl⟩ := ih
      refine ⟨f.innerOccurrence o _, Nesting.mem_listing_of_mem_inner ho ?_, rfl⟩
      exact (isOccurrence_of_mem_listed ho).mem_inner_iff.mpr ⟨_, hlink, rfl⟩

theorem nodup_occurrences (f : Forest) (roots : List Nat) : (f.occurrences roots).Nodup :=
  (Nesting.nodup_map_visit _ _ _).of_map _

end Forest
end SchemaModels

/-
Tables of keys, call by call.

A table starts without keys, and each call registers one key or gathers the keys that several
occurrences ask for.  Either way keys are registered one after the other, so a run of calls is a run
of registrations, and what one registration keeps every table has that comes about by calls: no model
without keys, and each key listed once and under its model.  A registration of a key that is there
does nothing, so neither order nor repetition counts.
-/
import SchemaModels.Proofs.Inverse.Table

namespace SchemaModels

theorem Listing.ne_nil_of_mem_file {κ α : Type} [DecidableEq κ] {key : κ} {value : α}
    {listing : Listing κ α} (h : ∀ entry ∈ listing, entry.2 ≠ []) :
    ∀ entry ∈ listing.file key value, entry.2 ≠ [] := by
  induction listing with
  | nil => simp [file]
  | cons first rest ih =>
    obtain ⟨k, values⟩ := first
    obtain ⟨hvalues, hrest⟩ := List.forall_mem_cons.mp h
    rw [file]
    split
    · exact List.forall_mem_cons.mpr ⟨by simp, hrest⟩
    · exact List.forall_mem_cons.mpr ⟨hvalues, ih hrest⟩

namespace InverseTable

theorem size_eq (table : InverseTable) : table.size = table.listed.length := by
  have hfrom : ∀ (entries : Listing String InverseKey) (n : Nat),
      entries.foldl (fun n entry => n + entry.2.length) n = n + entries.pairs.length := by
    intro entries
    induction entries with
    | nil => exact fun n => rfl
    | cons entry rest ih =>
      intro n
      have hpairs : Listing.pairs (entry :: rest) =
          (entry.2.map fun key => (entry.1, key)) ++ Listing.pairs rest := rfl
      rw [List.foldl_cons, ih, hpairs, List.length_append, List.length_map, Nat.add_assoc]
  rw [size, hfrom, Nat.zero_add, listed]

/-! ## What a registration keeps -/

/-- No model without keys, and each key listed once and found under its model. -/
structure WellKept (table : InverseTable) : Prop where
  ne_nil : ∀ entry ∈ table.entries, entry.2 ≠ []
  nodup : table.listed.Nodup
  found : ∀ child key, (child, key) ∈ table.listed → key ∈ table.get child

theorem wellKept_empty : WellKept {} := ⟨by simp, List.nodup_nil, by simp [listed, Listing.pairs]⟩

variable {table : InverseTable}

theorem register_of_mem {child : String} {key : InverseKey} (h : key ∈ table.get child) :
    table.register child key = table := if_pos (hasKey_iff.mpr h)

theorem WellKept.register (h : table.WellKept) (child : String) (key : InverseKey) :
    (table.register child key).WellKept := by
  by_cases hkey : key ∈ table.get child
  · rwa [register_of_mem hkey]
  constructor
  case ne_nil =>
    rw [InverseTable.register, if_neg fun hhas => hkey (hasKey_iff.mp hhas)]
    exact Listing.ne_nil_of_mem_file h.ne_nil
  case nodup =>
    have hnew : (child, key) ∉ table.listed := fun hlisted => hkey (h.found child key hlisted)
    rw [InverseTable.register, if_neg fun hhas => hkey (hasKey_iff.mp hhas), listed,
      (Listing.pairs_file_perm child key table.entries).nodup_iff]
    exact List.nodup_cons.mpr ⟨hnew, h.nodup⟩
  case found =>
    intro c k hlisted
    rw [mem_get_register]
    exact (mem_listed_register.mp hlisted).imp (h.found c k) Prod.mk.inj

theorem WellKept.isEmpty_iff (h : table.WellKept) : table.isEmpty = true ↔ table.size = 0 := by
  rw [isEmpty, List.isEmpty_iff, size_eq, List.length_eq_zero_iff, listed, Listing.pairs,
    List.flatMap_eq_nil_iff]
  constructor
  · intro hnone entry hentry
    rw [hnone] at hentry
    exact absurd hentry List.not_mem_nil
  · intro hnone
    rw [List.eq_nil_iff_forall_not_mem]
    intro entry hentry
    exact h.ne_nil entry hentry (List.map_eq_nil_iff.mp (hnone entry hentry))

/-! ## Many registrations -/

def registerAll (table : InverseTable) (entries : List (String × InverseKey)) : InverseTable :=
  entries.foldl (fun table entry => table.register entry.1 entry.2) table

theorem registerAll_append (table : InverseTable) (entries more : List (String × InverseKey)) :
    table.registerAll (entries ++ more) = (table.registerAll entries).registerAll more :=
  List.foldl_append

theorem mem_listed_registerAll {entries : List (String × InverseKey)} {e : String × InverseKey} :
    e ∈ (table.registerAll entries).listed ↔ e ∈ table.listed ∨ e ∈ entries := by
  refine (foldl_iff (P := fun table : InverseTable => e ∈ table.listed)
    (Q := fun entry => entry = e) (fun _ _ => mem_listed_register) entries table).trans ?_
  simp only [exists_eq_right]

theorem WellKept.registerAll (h : table.WellKept) (entries : List (String × InverseKey)) :
    (table.registerAll entries).WellKept :=
  List.foldlRecOn (motive := WellKept) entries _ h fun _ htable entry _ =>
    htable.register entry.1 entry.2

/-- Keys that are listed are not registered again. -/
theorem WellKept.registerAll_eq_self (h : table.WellKept) {entries : List (String × InverseKey)}
    (hlisted : ∀ e ∈ entries, e ∈ table.listed) : table.registerAll entries = table := by
  induction entries with
  | nil => rfl
  | cons e rest ih =>
    obtain ⟨he, hrest⟩ := List.forall_mem_cons.mp hlisted
    rw [InverseTable.registerAll, List.foldl_cons, register_of_mem (h.found e.1 e.2 he)]
    exact ih hrest

end InverseTable

/-! ## Calls -/

/-- A call that brings keys into a table. -/
inductive InverseCall where
  | register (child : String) (key : InverseKey)
  | collect (occurrences : List Occurrence)
deriving DecidableEq

namespace InverseCall

def registered : InverseCall → List (String × InverseKey)
  | register child key => [(child, key)]
  | collect _ => []

def collected : InverseCall → List Occurrence
  | register _ _ => []
  | collect occurrences => occurrences

end InverseCall

namespace InverseSource

def asked (src : InverseSource) (occurrences : List Occurrence) : List (String × InverseKey) :=
  (occurrences.flatMap src.requests).map fun r => (r.child, r.key)

def call (src : InverseSource) (table : InverseTable) : InverseCall → InverseTable
  | .register child key => table.register child key
  | .collect occurrences => src.collect table occurrences

/-- The table after calls that start from no keys. -/
def tableAfter (src : InverseSource) (calls : List InverseCall) : InverseTable :=
  calls.foldl src.call {}

variable {src : InverseSource}

theorem mem_asked_iff {occurrences : List Occurrence} {entry : String × InverseKey} :
    entry ∈ src.asked occurrences ↔
      ∃ o ∈ occurrences, ∃ r ∈ src.requests o, (r.child, r.key) = entry := by
  simp only [asked, List.mem_map, List.mem_flatMap]
  constructor
  · rintro ⟨r, ⟨o, ho, hr⟩, rfl⟩
    exact ⟨o, ho, r, hr, rfl⟩
  · rintro ⟨o, ho, r, hr, rfl⟩
    exact ⟨r, ⟨o, ho, hr⟩, rfl⟩

theorem asked_append (occurrences more : List Occurrence) :
    src.asked (occurrences ++ more) = src.asked occurrences ++ src.asked more := by
  rw [asked, List.flatMap_append, List.map_append]
  rfl

theorem collect_eq_registerAll (table : InverseTable) (occurrences : List Occurrence) :
    src.collect table occurrences = table.registerAll (src.asked occurrences) := by
  rw [collect, InverseTable.registerAll, asked, List.foldl_map]

/-- Gathering in several calls is gathering in one. -/
theorem foldl_collect (table : InverseTable) (parts : List (List Occurrence)) :
    parts.foldl src.collect table = src.collect table parts.flatten := by
  induction parts generalizing table with
  | nil => rfl
  | cons occurrences rest ih =>
    rw [List.foldl_cons, ih, List.flatten_cons]
    simp only [collect_eq_registerAll, asked_append, InverseTable.registerAll_append]

theorem mem_listed_collect {table : InverseTable} {occurrences : List Occurrence}
    {entry : String × InverseKey} :
    entry ∈ (src.collect table occurrences).listed ↔
      entry ∈ table.listed ∨ ∃ o ∈ occurrences, ∃ r ∈ src.requests o, (r.child, r.key) = entry := by
  rw [collect_eq_registerAll, InverseTable.mem_listed_registerAll, mem_asked_iff]

theorem wellKept_tableAfter (calls : List InverseCall) : (src.tableAfter calls).WellKept := by
  refine List.foldlRecOn (motive := InverseTable.WellKept) calls _ InverseTable.wellKept_empty ?_
  intro table htable call _
  cases call with
  | register child key => exact htable.register child key
  | collect occurrences =>
    rw [InverseSource.call, collect_eq_registerAll]
    exact htable.registerAll _

/-- After calls a table lists what was registered and what some occurrence asked for. -/
theorem mem_listed_tableAfter {calls : List InverseCall} {entry : String × InverseKey} :
    entry ∈ (src.tableAfter calls).listed ↔
      (∃ call ∈ calls, entry ∈ call.registered) ∨
        ∃ call ∈ calls, ∃ o ∈ call.collected, ∃ r ∈ src.requests o, (r.child, r.key) = entry := by
  have hstep : ∀ (table : InverseTable) (call : InverseCall),
      entry ∈ (src.call table call).listed ↔ entry ∈ table.listed ∨
        (entry ∈ call.registered ∨
          ∃ o ∈ call.collected, ∃ r ∈ src.requests o, (r.child, r.key) = entry) := by
    intro table call
    cases call with
    | register child key =>
      simp [InverseSource.call, InverseTable.mem_listed_register, InverseCall.registered,
        InverseCall.collected, eq_comm]
    | collect occurrences =>
      simp [InverseSource.call, mem_listed_collect, InverseCall.registered, InverseCall.collected]
  refine (foldl_iff (P := fun table : InverseTable => entry ∈ table.listed) hstep calls {}).trans ?_
  simp [InverseTable.listed, Listing.pairs, and_or_left, exists_or]

/-- Whatever calls a table comes about by, no key is listed twice, it is empty just if it counts no
keys, and gathering again for occurrences that were gathered for leaves it as it is; gathering for
the same occurrences in any order and by any number of calls lists the same keys, and all keys are
those that were registered or asked for. -/
theorem listed_after_calls (src : InverseSource) (calls : List InverseCall) :
    let table := src.tableAfter calls
    table.listed.Nodup ∧
      (table.isEmpty = true ↔ table.size = 0) ∧
      (∀ again : List Occurrence, (∀ o ∈ again, ∃ call ∈ calls, o ∈ call.collected) →
        src.collect table again = table) ∧
      (∀ parts others : List (List Occurrence), others.flatten.Perm parts.flatten → ∀ entry,
        entry ∈ (others.foldl src.collect table).listed ↔
          entry ∈ (parts.foldl src.collect table).listed) ∧
      ∀ entry, entry ∈ table.listed ↔
        (∃ call ∈ calls, entry ∈ call.registered) ∨
          ∃ call ∈ calls, ∃ o ∈ call.collected, ∃ r ∈ src.requests o, (r.child, r.key) = entry := by
  intro table
  have hkept : table.WellKept := wellKept_tableAfter calls
  refine ⟨hkept.nodup, hkept.isEmpty_iff, fun again hagain => ?again, fun parts others hperm entry =>
    ?order, fun entry => mem_listed_tableAfter⟩
  case again =>
    rw [collect_eq_registerAll]
    refine hkept.registerAll_eq_self fun entry hentry => ?_
    obtain ⟨o, ho, r, hr, hsame⟩ := mem_asked_iff.mp hentry
    obtain ⟨call, hcall, hcollected⟩ := hagain o ho
    exact mem_listed_tableAfter.mpr (Or.inr ⟨call, hcall, o, hcollected, r, hr, hsame⟩)
  case order =>
    rw [foldl_collect, foldl_collect, mem_listed_collect, mem_listed_collect]
    refine or_congr_right (exists_congr fun o => and_congr_left' ?_)
    exact hperm.mem_iff

/-- Orders with lines: two lists of one name ask for one key. -/
def orderForest : Forest :=
  .ofTrees
    [.node
      { qname := "Order", name := "Order",
        attributes :=
          [{ name := "line", maxOccurs := .unbounded, types := [.named "Line"] },
           { name := "line", maxOccurs := .unbounded, types := [.named "Line"] }] } [],
     .node { qname := "Line", name := "Line" } []]

theorem order_gathered_again :
    let src : InverseSource :=
      { forest := orderForest
        names := Registry.resolve orderForest (.empty "spec" "10") orderForest.roots
        reach := Reach.addFrom orderForest {} orderForest.roots
        rules := ⟨[]⟩
        naming := ⟨.leadRaw, "spec10_"⟩ }
    let occurrences := orderForest.occurrences orderForest.roots
    let calls := [.register "spec.10.line" ⟨"spec.10.box", "box_id"⟩, .collect occurrences]
    let table := src.tableAfter calls
    table.listed =
        [("spec.10.line", ⟨"spec.10.box", "box_id"⟩),
         ("spec.10.line", ⟨"spec.10.order", "spec10_line_Order_id"⟩)] ∧
      (∀ o ∈ occurrences.reverse, ∃ call ∈ calls, o ∈ call.collected) ∧
      src.collect table occurrences.reverse = table := by
  intro src occurrences calls table
  have hcollected : ∀ o ∈ occurrences.reverse, ∃ call ∈ calls, o ∈ call.collected := fun o ho =>
    ⟨.collect occurrences, by simp [calls], List.mem_reverse.mp ho⟩
  have hkeys : table.listed =
      [("spec.10.line", ⟨"spec.10.box", "box_id"⟩),
       ("spec.10.line", ⟨"spec.10.order", "spec10_line_Order_id"⟩)] := by
    decide +kernel
  exact ⟨hkeys, hcollected, (listed_after_calls src calls).2.2.1 _ hcollected⟩

end InverseSource
end SchemaModels

/-
What is learned from schema files, lineage by lineage.

A class is looked up once, by the lineage that comes first, whether or not that lineage leads to its
declaration.  One step passes a lineage over or looks its class up; over a whole run a fact is never
lost, every fact is taught by some lineage, and the documentation of a class is what its first
lineage teaches.
-/
import SchemaModels.Facts
import SchemaModels.Proofs.Fold

namespace SchemaModels
namespace FactTable

/-! ## What one lineage teaches -/

def subject? (f : Forest) (lineage : List Nat) : Option (Nat × SchemaClass) := do
  let id ← lineage.getLast?
  let c ← f.get? id
  if c.isComplex then some (id, c) else none

def declaration? (f : Forest) (files : SchemaFiles) (lineage : List Nat) : Option Located :=
  (schemaOf f files lineage).bind fun schema => locate? schema (lineage.map f.nameOf)

def lastFact? (qname : String) (entries : List (String × Fact)) (key : String) : Option Fact :=
  (entries.reverse.find? fun entry => factKey qname entry.1 == key).map Prod.snd

/-- The fact that a lineage teaches under a key. -/
def taughtFact? (f : Forest) (files : SchemaFiles) (lineage : List Nat) (key : String) :
    Option Fact := do
  let (_, c) ← subject? f lineage
  let found ← declaration? f files lineage
  lastFact? c.qname (factsOf found.complexType c.name) key

def taughtDoc? (f : Forest) (files : SchemaFiles) (lineage : List Nat) : Option String := do
  let _ ← subject? f lineage
  let found ← declaration? f files lineage
  found.documentation

theorem subject?_eq_some_iff {f : Forest} {lineage : List Nat} {id : Nat} {c : SchemaClass} :
    subject? f lineage = some (id, c) ↔
      lineage.getLast? = some id ∧ f.get? id = some c ∧ c.isComplex = true := by
  simp only [subject?, Option.bind_eq_bind, Option.bind_eq_some_iff, Option.ite_none_right_eq_some,
    Option.some.injEq, Prod.mk.injEq]
  constructor
  · rintro ⟨i, hi, d, hd, hcomplex, rfl, rfl⟩
    exact ⟨hi, hd, hcomplex⟩
  · rintro ⟨hid, hc, hcomplex⟩
    exact ⟨id, hid, c, hc, hcomplex, rfl, rfl⟩

theorem exists_subject_of_taughtFact? {f : Forest} {files : SchemaFiles} {lineage : List Nat}
    {key : String} {fact : Fact} (h : taughtFact? f files lineage key = some fact) :
    ∃ id c, subject? f lineage = some (id, c) := by
  rw [taughtFact?, Option.bind_eq_bind, Option.bind_eq_some_iff] at h
  obtain ⟨⟨id, c⟩, hsubject, -⟩ := h
  exact ⟨id, c, hsubject⟩

/-! ## One step -/

theorem lookup_cons_eq_ite {α β : Type} [DecidableEq α] (key : α) (b : β) (rest : List (α × β))
    (k : α) : ((key, b) :: rest).lookup k = if k = key then some b else rest.lookup k := by
  rw [List.lookup_cons]
  by_cases hk : k = key
  · rw [if_pos hk, beq_iff_eq.mpr hk]
  · rw [if_neg hk, beq_eq_false_iff_ne.mpr hk]

theorem lookup_setFact (facts : List (String × Fact)) (key : String) (fact : Fact) (k : String) :
    (setFact facts key fact).lookup k = if k = key then some fact else facts.lookup k := by
  induction facts with
  | nil => exact lookup_cons_eq_ite key fact [] k
  | cons entry rest ih =>
    obtain ⟨key', fact'⟩ := entry
    rw [setFact, lookup_cons_eq_ite]
    by_cases hkey : key' = key
    · subst hkey
      rw [if_pos rfl, lookup_cons_eq_ite]
      split <;> rfl
    · rw [if_neg hkey, lookup_cons_eq_ite, ih]
      by_cases hk : k = key'
      · rw [if_pos hk, if_pos hk, if_neg (hk ▸ hkey)]
      · rw [if_neg hk, if_neg hk]

theorem lookup_foldl_setFact (qname : String) (entries : List (String × Fact))
    (facts : List (String × Fact)) (key : String) :
    (entries.foldl (fun facts (name, fact) => setFact facts (factKey qname name) fact)
      facts).lookup key = (lastFact? qname entries key).or (facts.lookup key) := by
  induction entries generalizing facts with
  | nil => rfl
  | cons entry rest ih =>
    obtain ⟨name, fact⟩ := entry
    rw [List.foldl_cons, ih, lookup_setFact, lastFact?, lastFact?, List.reverse_cons,
      List.find?_append]
    cases rest.reverse.find? fun entry => factKey qname entry.1 == key with
    | some later => rfl
    | none =>
      by_cases hkey : factKey qname name = key
      · simp [hkey]
      · simp [hkey, Ne.symm hkey]

variable {f : Forest} {files : SchemaFiles} {table : FactTable} {lineage : List Nat} {id : Nat}
  {c : SchemaClass}

theorem passed_or_due (f : Forest) (table : FactTable) (lineage : List Nat) :
    (∀ id c, subject? f lineage = some (id, c) → id ∈ table.mined) ∨
      ∃ id c, subject? f lineage = some (id, c) ∧ id ∉ table.mined := by
  by_cases h : ∃ id c, subject? f lineage = some (id, c) ∧ id ∉ table.mined
  · exact Or.inr h
  · exact Or.inl fun id c hsubject =>
      Decidable.byContradiction fun hdue => h ⟨id, c, hsubject, hdue⟩

/-- A lineage is passed over unless it ends in a class that is still to be looked up. -/
theorem mine_of_passed (h : ∀ id c, subject? f lineage = some (id, c) → id ∈ table.mined) :
    mine f files table lineage = table := by
  rw [mine]
  split
  · rfl
  · rename_i id hend
    split
    · rfl
    · rename_i c hc
      have hdue : table.isDue f id = false := by
        rw [isDue, hc, Option.any_some]
        cases hcomplex : c.isComplex with
        | false => rfl
        | true =>
          have hmined := h id c (subject?_eq_some_iff.mpr ⟨hend, hc, hcomplex⟩)
          simpa using hmined
      rw [hdue]
      rfl

/-- A class that is looked up counts as mined, and what its declaration says is learned. -/
theorem mine_of_due (hsubject : subject? f lineage = some (id, c)) (hdue : id ∉ table.mined) :
    mine f files table lineage =
      match declaration? f files lineage with
      | none => { table with mined := id :: table.mined }
      | some found => learn { table with mined := id :: table.mined } id c found := by
  obtain ⟨hend, hc, hcomplex⟩ := subject?_eq_some_iff.mp hsubject
  have hisDue : table.isDue f id = true := by
    rw [isDue, hc, Option.any_some, hcomplex]
    simpa using hdue
  rw [mine, hend]
  simp only [hc, hisDue]
  rfl

theorem mem_mined_mine {i : Nat} :
    i ∈ (mine f files table lineage).mined ↔
      i ∈ table.mined ∨ ∃ c, subject? f lineage = some (i, c) := by
  rcases passed_or_due f table lineage with hpassed | ⟨id, c, hsubject, hdue⟩
  · rw [mine_of_passed hpassed]
    exact ⟨Or.inl, fun hi => hi.elim (fun hi => hi) fun ⟨c, hc⟩ => hpassed i c hc⟩
  · have hmined : (mine f files table lineage).mined = id :: table.mined := by
      rw [mine_of_due hsubject hdue]
      cases declaration? f files lineage <;> rfl
    rw [hmined, List.mem_cons, hsubject]
    constructor
    · rintro (rfl | hi)
      · exact Or.inr ⟨c, rfl⟩
      · exact Or.inl hi
    · rintro (hi | ⟨d, hd⟩)
      · exact Or.inr hi
      · exact Or.inl (Prod.mk.inj (Option.some.inj hd)).1.symm

theorem lookup_facts_mine (hsubject : subject? f lineage = some (id, c)) (hdue : id ∉ table.mined)
    (key : String) :
    (mine f files table lineage).facts.lookup key =
      (taughtFact? f files lineage key).or (table.facts.lookup key) := by
  rw [mine_of_due hsubject hdue, taughtFact?, hsubject]
  cases hfound : declaration? f files lineage with
  | none => rfl
  | some found => exact lookup_foldl_setFact c.qname _ table.facts key

theorem lookup_docs_mine (hsubject : subject? f lineage = some (id, c)) (hdue : id ∉ table.mined)
    (hdoc : c.documentation = none) :
    (mine f files table lineage).docs.lookup id =
      (taughtDoc? f files lineage).or (table.docs.lookup id) := by
  rw [mine_of_due hsubject hdue, taughtDoc?, hsubject]
  cases hfound : declaration? f files lineage with
  | none => rfl
  | some found =>
    simp only [learn, hdoc]
    cases hfoundDoc : found.documentation with
    | none => simp [hfoundDoc]
    | some doc => simp [hfoundDoc]

theorem docs_mine_of_passed (h : ∀ d, subject? f lineage = some (id, d) → id ∈ table.mined) :
    (mine f files table lineage).docs.lookup id = table.docs.lookup id := by
  rcases passed_or_due f table lineage with hpassed | ⟨i, d, hsubject, hdue⟩
  · rw [mine_of_passed hpassed]
  · have hne : id ≠ i := by
      rintro rfl
      exact hdue (h d hsubject)
    rw [mine_of_due hsubject hdue]
    cases declaration? f files lineage with
    | none => rfl
    | some found =>
      simp only [learn]
      split
      · rw [lookup_cons_eq_ite, if_neg hne]
      · rfl

/-! ## A whole run -/

/-- The table after several lineages. -/
def mineAll (f : Forest) (files : SchemaFiles) (table : FactTable) (lineages : List (List Nat)) :
    FactTable := lineages.foldl (mine f files) table

theorem mineAll_cons (f : Forest) (files : SchemaFiles) (table : FactTable) (lineage : List Nat)
    (rest : List (List Nat)) : mineAll f files table (lineage :: rest) =
      mineAll f files (mine f files table lineage) rest := rfl

theorem mineAll_append (f : Forest) (files : SchemaFiles) (table : FactTable)
    (lineages more : List (List Nat)) : mineAll f files table (lineages ++ more) =
      mineAll f files (mineAll f files table lineages) more := List.foldl_append

variable {lineages : List (List Nat)} {key : String}

theorem mem_mined_mineAll :
    id ∈ (mineAll f files table lineages).mined ↔
      id ∈ table.mined ∨ ∃ lineage ∈ lineages, ∃ c, subject? f lineage = some (id, c) :=
  foldl_iff (P := fun table : FactTable => id ∈ table.mined)
    (Q := fun lineage => ∃ c, subject? f lineage = some (id, c)) (fun _ _ => mem_mined_mine)
    lineages table

/-- Lineages of classes that were looked up before change nothing. -/
theorem mineAll_of_passed (h : ∀ lineage ∈ lineages, ∀ id c,
    subject? f lineage = some (id, c) → id ∈ table.mined) :
    mineAll f files table lineages = table := by
  induction lineages with
  | nil => rfl
  | cons lineage rest ih =>
    rw [mineAll_cons, mine_of_passed (h lineage List.mem_cons_self)]
    exact ih fun l hl => h l (List.mem_cons_of_mem _ hl)

/-- A fact comes from one of the lineages. -/
theorem facts_mineAll_source {fact : Fact}
    (h : (mineAll f files table lineages).facts.lookup key = some fact) :
    table.facts.lookup key = some fact ∨
      ∃ lineage ∈ lineages, taughtFact? f files lineage key = some fact := by
  induction lineages generalizing table with
  | nil => exact Or.inl h
  | cons lineage rest ih =>
    rw [mineAll_cons] at h
    rcases ih h with hstep | ⟨l, hl, htaught⟩
    · rcases passed_or_due f table lineage with hpassed | ⟨id, c, hsubject, hdue⟩
      · rw [mine_of_passed hpassed] at hstep
        exact Or.inl hstep
      · rw [lookup_facts_mine hsubject hdue, Option.or_eq_some_iff] at hstep
        rcases hstep with htaught | ⟨-, hbefore⟩
        · exact Or.inr ⟨lineage, List.mem_cons_self, htaught⟩
        · exact Or.inl hbefore
    · exact Or.inr ⟨l, List.mem_cons_of_mem _ hl, htaught⟩

theorem facts_of_silent (h : ∀ l ∈ lineages, taughtFact? f files l key = none) :
    (mineAll f files {} lineages).facts.lookup key = none := by
  rw [Option.eq_none_iff_forall_ne_some]
  intro fact hfact
  rcases facts_mineAll_source hfact with hempty | ⟨l, hl, htaught⟩
  · exact absurd hempty (by simp)
  · rw [h l hl] at htaught
    exact absurd htaught (by simp)

theorem facts_mineAll_isSome (h : (table.facts.lookup key).isSome = true) :
    ((mineAll f files table lineages).facts.lookup key).isSome = true := by
  induction lineages generalizing table with
  | nil => exact h
  | cons lineage rest ih =>
    rw [mineAll_cons]
    refine ih ?_
    rcases passed_or_due f table lineage with hpassed | ⟨id, c, hsubject, hdue⟩
    · rwa [mine_of_passed hpassed]
    · rw [lookup_facts_mine hsubject hdue, Option.isSome_or, h, Bool.or_true]

/-! ## The first lineage of a class -/

/-- The lineages of a class, before the first of which it has not been looked up. -/
theorem exists_first {lineage : List Nat} (hmem : lineage ∈ lineages) :
    ∃ before first after, lineages = before ++ first :: after ∧
      first.getLast? = lineage.getLast? ∧
      ∀ l ∈ before, l.getLast? ≠ lineage.getLast? := by
  have hfind : (lineages.find? fun l => l.getLast? == lineage.getLast?).isSome = true :=
    List.find?_isSome.mpr ⟨lineage, hmem, beq_self_eq_true _⟩
  obtain ⟨first, hfirst⟩ := Option.isSome_iff_exists.mp hfind
  obtain ⟨hend, before, after, hsplit, hbefore⟩ := List.find?_eq_some_iff_append.mp hfirst
  exact ⟨before, first, after, hsplit, beq_iff_eq.mp hend,
    fun l hl => by simpa using hbefore l hl⟩

theorem due_after (f : Forest) (files : SchemaFiles) {before : List (List Nat)}
    (hend : lineage.getLast? = some id)
    (hbefore : ∀ l ∈ before, l.getLast? ≠ lineage.getLast?) :
    id ∉ (mineAll f files {} before).mined := by
  rw [mem_mined_mineAll]
  rintro (hnone | ⟨l, hl, c, hsubject⟩)
  · exact absurd hnone List.not_mem_nil
  · exact hbefore l hl ((subject?_eq_some_iff.mp hsubject).1.trans hend.symm)

/-- The first lineage of a class that teaches a fact puts it into the table. -/
theorem facts_isSome_of_first {before after : List (List Nat)}
    (hbefore : ∀ l ∈ before, l.getLast? ≠ lineage.getLast?) {fact : Fact}
    (htaught : taughtFact? f files lineage key = some fact) :
    ((mineAll f files {} (before ++ lineage :: after)).facts.lookup key).isSome = true := by
  obtain ⟨id, c, hsubject⟩ := exists_subject_of_taughtFact? htaught
  have hdue := due_after f files (subject?_eq_some_iff.mp hsubject).1 hbefore
  rw [mineAll_append, mineAll_cons]
  refine facts_mineAll_isSome ?_
  rw [lookup_facts_mine hsubject hdue, htaught, Option.some_or]
  rfl

/-- Something that a table knows of one class: nothing at first, and nothing new but when the class
is looked up, which adds what the lineage teaches. -/
structure IsTaught {α : Type} (f : Forest) (files : SchemaFiles) (id : Nat)
    (known : FactTable → Option α) (taught : List Nat → Option α) : Prop where
  empty : known {} = none
  passed : ∀ table lineage, (∀ c, subject? f lineage = some (id, c) → id ∈ table.mined) →
    known (mine f files table lineage) = known table
  due : ∀ table lineage c, subject? f lineage = some (id, c) → id ∉ table.mined →
    known (mine f files table lineage) = (taught lineage).or (known table)
  silent : ∀ lineage, subject? f lineage = none → taught lineage = none

namespace IsTaught

variable {α : Type} {known : FactTable → Option α} {taught : List Nat → Option α}

/-- What is known of a class changes by no lineage but the first of that class. -/
theorem known_mineAll_of_passed (h : IsTaught f files id known taught)
    (hpassed : ∀ lineage ∈ lineages, ∀ c, subject? f lineage = some (id, c) → id ∈ table.mined) :
    known (mineAll f files table lineages) = known table := by
  induction lineages generalizing table with
  | nil => rfl
  | cons lineage rest ih =>
    rw [mineAll_cons, ih fun l hl c hc =>
      mem_mined_mine.mpr (Or.inl (hpassed l (List.mem_cons_of_mem _ hl) c hc))]
    exact h.passed table lineage (hpassed lineage List.mem_cons_self)

theorem known_mineAll_of_never (h : IsTaught f files id known taught)
    (hnever : ∀ lineage ∈ lineages, ∀ c, subject? f lineage ≠ some (id, c)) :
    known (mineAll f files {} lineages) = none := by
  rw [h.known_mineAll_of_passed fun l hl c hc => absurd hc (hnever l hl c)]
  exact h.empty

/-- What is known of a class is what its first lineage teaches. -/
theorem known_mineAll (h : IsTaught f files id known taught) (lineages : List (List Nat)) :
    known (mineAll f files {} lineages) =
      (lineages.find? fun l => l.getLast? == some id).bind taught := by
  cases hfirst : lineages.find? fun l => l.getLast? == some id with
  | none =>
    refine h.known_mineAll_of_never fun l hl c hc => ?_
    exact absurd (beq_iff_eq.mpr (subject?_eq_some_iff.mp hc).1) (List.find?_eq_none.mp hfirst l hl)
  | some first =>
    obtain ⟨hend, before, after, rfl, hbefore⟩ := List.find?_eq_some_iff_append.mp hfirst
    have hend := beq_iff_eq.mp hend
    have hother : ∀ l ∈ before, l.getLast? ≠ first.getLast? := by
      intro l hl
      rw [hend]
      simpa using hbefore l hl
    cases hsubject : subject? f first with
    | some subject =>
      obtain ⟨i, c⟩ := subject
      obtain rfl : i = id :=
        Option.some.inj ((subject?_eq_some_iff.mp hsubject).1.symm.trans hend)
      have hnone : known (mineAll f files {} before) = none :=
        h.known_mineAll_of_never fun l hl d hd =>
          hother l hl ((subject?_eq_some_iff.mp hd).1.trans hend.symm)
      rw [mineAll_append, mineAll_cons, h.known_mineAll_of_passed fun _ _ _ _ =>
        mem_mined_mine.mpr (Or.inr ⟨c, hsubject⟩),
        h.due _ _ c hsubject (due_after f files hend hother), hnone]
      exact Option.or_none
    | none =>
      -- The class is a list of values, and no lineage of it is looked up.
      rw [h.known_mineAll_of_never fun l _ c hc => ?_]
      · exact (h.silent first hsubject).symm
      · obtain ⟨-, hc, hcomplex⟩ := subject?_eq_some_iff.mp hc
        have hsome := subject?_eq_some_iff.mpr ⟨hend, hc, hcomplex⟩
        exact absurd (hsubject.symm.trans hsome) (by simp)

end IsTaught

theorem isTaught_docs (files : SchemaFiles) (hc : f.get? id = some c)
    (hdoc : c.documentation = none) :
    IsTaught f files id (fun table => table.docs.lookup id) (taughtDoc? f files) := by
  constructor
  case empty => rfl
  case passed => exact fun table lineage h => docs_mine_of_passed h
  case due =>
    intro table lineage d hsubject hdue
    obtain rfl := Option.some.inj (hc.symm.trans (subject?_eq_some_iff.mp hsubject).2.1)
    exact lookup_docs_mine hsubject hdue hdoc
  case silent =>
    intro lineage hnone
    rw [taughtDoc?, hnone]
    rfl

/-- The documentation of a class is what its first lineage teaches. -/
theorem docs_mineAll (hc : f.get? id = some c) (hdoc : c.documentation = none) :
    (mineAll f files {} lineages).docs.lookup id =
      (lineages.find? fun l => l.getLast? == some id).bind (taughtDoc? f files) :=
  (isTaught_docs files hc hdoc).known_mineAll lineages

end FactTable
end SchemaModels

/-
Why a bundle has no model, and which of several faults is reported.

A bundle is at fault if a qualified name is declared twice, or if a group names a class that is not
there.  `FailsWith` says which fault counts: a repeated name before an unknown one, and of either
kind the first that is met, the classes in pre-order, the modules before the packages.  The loop over
the pending trees and the two nested traversals of groups each stop at the first fault, so they
report that one: `model_eq_error_iff`.
-/
import SchemaModels.Proofs.Bundle

namespace SchemaModels

/-! ## First faults -/

theorem bind_eq_error_iff {ε α β : Type} {x : Except ε α} {k : α → Except ε β} {e : ε} :
    (x >>= k) = .error e ↔ x = .error e ∨ ∃ a, x = .ok a ∧ k a = .error e := by
  cases x <;> simp [bind, Except.bind]

theorem mapM_cons_eq_error_iff {ε α β : Type} {h : α → Except ε β} {a : α} {l : List α} {e : ε} :
    (a :: l).mapM h = .error e ↔ h a = .error e ∨ ∃ b, h a = .ok b ∧ l.mapM h = .error e := by
  rw [List.mapM_cons, bind_eq_error_iff]
  apply or_congr_right
  apply exists_congr
  intro b
  apply and_congr_right
  intro _
  rw [bind_eq_error_iff, or_iff_left]
  rintro ⟨bs, -, hpure⟩
  exact absurd hpure (by simp [pure, Except.pure])

theorem firstRepeated_eq_none_iff_nodup {names : List String} :
    firstRepeated [] names = none ↔ names.Nodup :=
  firstRepeated_eq_none_iff.trans (and_iff_left fun _ _ => List.not_mem_nil)

theorem firstRepeated_concat (names : List String) (last : String) :
    firstRepeated [] (names ++ [last]) =
      (firstRepeated [] names).or (if last ∈ names then some last else none) := by
  rw [firstRepeated_append, List.nil_append, firstRepeated]
  by_cases h : last ∈ names
  · rw [if_pos (List.contains_iff_mem.mpr h), if_pos h]
  · rw [if_neg (fun hin => h (List.contains_iff_mem.mp hin)), if_neg h, firstRepeated]

/-- The name that is reported is one of those before it, which all differ. -/
theorem firstRepeated_eq_some_iff {names : List String} {name : String} :
    firstRepeated [] names = some name ↔
      ∃ before after, names = before ++ name :: after ∧ before.Nodup ∧ name ∈ before := by
  constructor
  · -- Without the last name it is reported as well, or it is the last name.
    induction names using List.reverseRecOn with
    | nil => simp [firstRepeated]
    | append_singleton names last ih =>
      intro h
      rw [firstRepeated_concat] at h
      cases hfirst : firstRepeated [] names with
      | some other =>
        rw [hfirst] at h ih
        obtain ⟨before, after, rfl, hnodup, hin⟩ := ih h
        exact ⟨before, after ++ [last], by simp, hnodup, hin⟩
      | none =>
        rw [hfirst, Option.none_or] at h
        split at h
        · rename_i hin
          obtain rfl : last = name := Option.some.inj h
          exact ⟨names, [], rfl, firstRepeated_eq_none_iff_nodup.mp hfirst, hin⟩
        · exact absurd h (by simp)
  · rintro ⟨before, after, rfl, hnodup, hin⟩
    rw [firstRepeated_append, firstRepeated_eq_none_iff_nodup.mpr hnodup, Option.none_or,
      List.nil_append, firstRepeated, if_pos (List.contains_iff_mem.mpr hin)]

/-! ## Groups -/

/-- The members of groups, each behind the path of its group. -/
def Groups.members {α : Type} (groups : Groups α) : List (String × α) :=
  groups.flatMap fun (path, members) => members.map fun member => (path, member)

theorem Groups.members_append {α : Type} (groups more : Groups α) :
    Groups.members (groups ++ more) = groups.members ++ more.members := List.flatMap_append

theorem Groups.exists_mem_members_iff {α : Type} {groups : Groups α} {P : α → Prop} :
    (∃ member ∈ groups.members, P member.2) ↔ ∃ group ∈ groups, ∃ member ∈ group.2, P member := by
  constructor
  · rintro ⟨member, hmember, h⟩
    obtain ⟨group, hgroup, hin⟩ := List.mem_flatMap.mp hmember
    obtain ⟨own, hown, rfl⟩ := List.mem_map.mp hin
    exact ⟨group, hgroup, own, hown, h⟩
  · rintro ⟨group, hgroup, member, hmember, h⟩
    exact ⟨(group.1, member), List.mem_flatMap.mpr ⟨group, hgroup, List.mem_map_of_mem hmember⟩, h⟩

namespace Forest

def firstUnknown (f : Forest) (groups : Groups String) : Option (String × String) :=
  groups.members.find? fun member => (f.lookup member.2).isNone

variable {f : Forest}

theorem resolveGroup_eq_error_iff {path : String} {members : List String} {e : LoadError} :
    f.resolveGroup path members = .error e ↔
      ∃ qname, members.find? (fun q => (f.lookup q).isNone) = some qname ∧
        e = .unknownClass path qname := by
  induction members with
  | nil => simp [resolveGroup, pure, Except.pure]
  | cons first rest ih =>
    rw [resolveGroup, mapM_cons_eq_error_iff]
    cases hfirst : f.lookup first with
    | none => simp [hfirst, eq_comm]
    | some id => simpa [hfirst, resolveGroup] using ih

theorem firstUnknown_cons (path : String) (members : List String) (groups : Groups String) :
    f.firstUnknown ((path, members) :: groups) =
      ((members.find? fun q => (f.lookup q).isNone).map fun q => (path, q)).or
        (f.firstUnknown groups) := by
  rw [firstUnknown, Groups.members, List.flatMap_cons, List.find?_append, List.find?_map]
  rfl

theorem resolveGroups_cons_eq_error_iff {path : String} {members : List String}
    {groups : Groups String} {e : LoadError} :
    f.resolveGroups ((path, members) :: groups) = .error e ↔
      f.resolveGroup path members = .error e ∨
        (∃ ids, f.resolveGroup path members = .ok ids) ∧ f.resolveGroups groups = .error e := by
  rw [resolveGroups, mapM_cons_eq_error_iff]
  show (f.resolveGroup path members >>= fun ids => pure (path, ids)) = .error e ∨
    (∃ resolved, (f.resolveGroup path members >>= fun ids => pure (path, ids)) = .ok resolved ∧
      f.resolveGroups groups = .error e) ↔ _
  cases f.resolveGroup path members <;> simp [bind, Except.bind, pure, Except.pure]

theorem resolveGroups_eq_error_iff {groups : Groups String} {e : LoadError} :
    f.resolveGroups groups = .error e ↔
      ∃ path qname, f.firstUnknown groups = some (path, qname) ∧ e = .unknownClass path qname := by
  induction groups with
  | nil => simp [resolveGroups, firstUnknown, Groups.members, pure, Except.pure]
  | cons group rest ih =>
    obtain ⟨path, members⟩ := group
    rw [resolveGroups_cons_eq_error_iff, firstUnknown_cons, ih]
    cases hfirst : members.find? fun q => (f.lookup q).isNone with
    | some q =>
      have herror : f.resolveGroup path members = .error (.unknownClass path q) :=
        resolveGroup_eq_error_iff.mpr ⟨q, hfirst, rfl⟩
      simp [herror, eq_comm]
    | none =>
      obtain ⟨ids, hids⟩ : ∃ ids, f.resolveGroup path members = .ok ids := by
        cases hgroup : f.resolveGroup path members with
        | ok ids => exact ⟨ids, rfl⟩
        | error e =>
          obtain ⟨q, hq, -⟩ := resolveGroup_eq_error_iff.mp hgroup
          exact absurd (hfirst.symm.trans hq) (by simp)
      simp [hids]

/-- Groups that are not given are at no fault. -/
theorem groups_eq_error_iff {groups : Groups String} {others : Groups Nat} {e : LoadError} :
    (if groups.isEmpty then pure others else f.resolveGroups groups) = .error e ↔
      ∃ path qname, f.firstUnknown groups = some (path, qname) ∧ e = .unknownClass path qname := by
  by_cases hempty : groups = []
  · simp [hempty, firstUnknown, Groups.members, pure, Except.pure]
  · rw [if_neg (by simpa using hempty), resolveGroups_eq_error_iff]

theorem exists_groups_eq_ok_iff {groups : Groups String} {others : Groups Nat} :
    (∃ resolved, (if groups.isEmpty then pure others else f.resolveGroups groups) = .ok resolved) ↔
      f.firstUnknown groups = none := by
  cases hresult : (if groups.isEmpty then pure others else f.resolveGroups groups) with
  | ok resolved =>
    refine ⟨fun _ => ?_, fun _ => ⟨resolved, rfl⟩⟩
    by_contra hsome
    obtain ⟨⟨path, qname⟩, hfirst⟩ := Option.ne_none_iff_exists'.mp hsome
    have herror : (if groups.isEmpty then pure others else f.resolveGroups groups) =
        .error (.unknownClass path qname) := groups_eq_error_iff.mpr ⟨path, qname, hfirst, rfl⟩
    exact absurd (hresult.symm.trans herror) (by simp)
  | error e =>
    obtain ⟨path, qname, hfirst, -⟩ := groups_eq_error_iff.mp hresult
    simp [hfirst]

theorem firstUnknown_append (groups more : Groups String) :
    f.firstUnknown (groups ++ more) = (f.firstUnknown groups).or (f.firstUnknown more) := by
  rw [firstUnknown, Groups.members_append, List.find?_append]
  rfl

theorem isNone_lookup_ofTrees {trees : List ClassTree} {qname : String} :
    ((ofTrees trees).lookup qname).isNone = true ↔
      qname ∉ (ClassTree.declsAll trees).map (·.qname) := by
  have hkeys : qname ∈ (ofTrees trees).byQname.map Prod.fst ↔
      ((ofTrees trees).lookup qname).isSome = true := by
    simp [lookup, List.lookup_isSome_iff]
  rw [map_fst_byQname_ofTrees, List.mem_reverse,
    qnames_eq (map_toClassDecl_ofTrees trees)] at hkeys
  rw [hkeys, Option.isNone_iff_eq_none, Option.not_isSome_iff_eq_none]

end Forest

namespace Bundle

/-- The qualified names of all classes, at any depth, in pre-order. -/
def qnames (b : Bundle) : List String := (ClassTree.declsAll b.classes).map (·.qname)

/-- The fault of a bundle that is reported. -/
inductive FailsWith (b : Bundle) : LoadError → Prop
  /-- A class is the first one whose qualified name was declared before. -/
  | duplicate {before after : List ClassDecl} {decl : ClassDecl}
      (hsplit : ClassTree.declsAll b.classes = before ++ decl :: after)
      (hnew : (before.map (·.qname)).Nodup) (hold : decl.qname ∈ before.map (·.qname)) :
      b.FailsWith (.duplicateClass decl.qname)
  /-- No name is repeated, and a member is the first one that names no class. -/
  | unknown {before after : List (String × String)} {path qname : String}
      (hnames : b.qnames.Nodup)
      (hsplit : (b.modules ++ b.packages).members = before ++ (path, qname) :: after)
      (hknown : ∀ member ∈ before, member.2 ∈ b.qnames) (hunknown : qname ∉ b.qnames) :
      b.FailsWith (.unknownClass path qname)

variable {b : Bundle} {e : LoadError}

theorem model_of_repeated {qname : String} (h : firstRepeated [] b.qnames = some qname) :
    b.model = .error (.duplicateClass qname) := by
  have hforest : Forest.flatten b.classes = .error (.duplicateClass qname) := by
    rw [Forest.flatten_eq, Forest.qnames_eq (Forest.map_toClassDecl_ofTrees b.classes)]
    exact h ▸ rfl
  rw [model, hforest]
  rfl

theorem model_of_different (hnames : b.qnames.Nodup) :
    b.model = .error e ↔ ∃ path qname,
      (Forest.ofTrees b.classes).firstUnknown (b.modules ++ b.packages) = some (path, qname) ∧
        e = .unknownClass path qname := by
  have hqnames := Forest.qnames_eq (Forest.map_toClassDecl_ofTrees b.classes)
  -- The modules fail, or they do not and the packages fail, which is to look through both in order.
  rw [model_eq (hqnames ▸ hnames), bind_eq_error_iff, Forest.groups_eq_error_iff,
    Forest.firstUnknown_append]
  have hpackages : ∀ modules : Groups Nat,
      ((if b.packages.isEmpty then pure (Model.packagesOf modules)
        else (Forest.ofTrees b.classes).resolveGroups b.packages) >>= fun packages =>
          (pure ⟨Forest.ofTrees b.classes, modules, packages⟩ : Except LoadError Model)) =
        .error e ↔ ∃ path qname,
          (Forest.ofTrees b.classes).firstUnknown b.packages = some (path, qname) ∧
            e = .unknownClass path qname := by
    intro modules
    rw [bind_eq_error_iff, Forest.groups_eq_error_iff, or_iff_left]
    rintro ⟨packages, -, hpure⟩
    exact absurd hpure (by simp [pure, Except.pure])
  simp only [hpackages, exists_and_right, Forest.exists_groups_eq_ok_iff]
  cases (Forest.ofTrees b.classes).firstUnknown b.modules <;> simp

theorem not_isNone_lookup {qname : String} :
    (!((Forest.ofTrees b.classes).lookup qname).isNone) = true ↔ qname ∈ b.qnames := by
  rw [Bool.not_eq_true', ← Bool.not_eq_true, Forest.isNone_lookup_ofTrees, not_not]
  rfl

theorem failsWith_of_different (hnames : b.qnames.Nodup) :
    b.FailsWith e ↔ ∃ path qname,
      (Forest.ofTrees b.classes).firstUnknown (b.modules ++ b.packages) = some (path, qname) ∧
        e = .unknownClass path qname := by
  simp only [Forest.firstUnknown, List.find?_eq_some_iff_append, Forest.isNone_lookup_ofTrees]
  constructor
  · intro h
    cases h with
    | duplicate hsplit hnew hold =>
      have hboth := hnames
      rw [qnames, hsplit, List.map_append, List.map_cons] at hboth
      exact absurd hold ((List.nodup_append.mp hboth).2.2 _ · _ List.mem_cons_self rfl)
    | @unknown before after path qname _ hsplit hknown hunknown =>
      refine ⟨path, qname, ⟨hunknown, before, after, hsplit, fun member hmember => ?_⟩, rfl⟩
      exact not_isNone_lookup.mpr (hknown member hmember)
  · rintro ⟨path, qname, ⟨hunknown, before, after, hsplit, hknown⟩, rfl⟩
    refine .unknown hnames hsplit (fun member hmember => ?_) hunknown
    exact not_isNone_lookup.mp (hknown member hmember)

theorem failsWith_of_repeated {qname : String} (h : firstRepeated [] b.qnames = some qname) :
    b.FailsWith e ↔ e = .duplicateClass qname := by
  constructor
  · intro hfails
    cases hfails with
    | @duplicate before after decl hsplit hnew hold =>
      have hfirst : firstRepeated [] b.qnames = some decl.qname := by
        rw [firstRepeated_eq_some_iff]
        refine ⟨_, after.map (·.qname), ?_, hnew, hold⟩
        rw [qnames, hsplit, List.map_append, List.map_cons]
      rw [Option.some.inj (h.symm.trans hfirst)]
    | unknown hnames =>
      exact absurd (h.symm.trans (firstRepeated_eq_none_iff_nodup.mpr hnames)) (by simp)
  · rintro rfl
    obtain ⟨names, others, hnames, hnew, hold⟩ := firstRepeated_eq_some_iff.mp h
    obtain ⟨before, rest, hsplit, rfl, hrest⟩ := List.map_eq_append_iff.mp hnames
    obtain ⟨decl, after, rfl, rfl, -⟩ := List.map_eq_cons_iff.mp hrest
    exact .duplicate hsplit hnew hold

/-- A bundle fails just with the fault that comes first, and just if it has one. -/
theorem model_eq_error_iff (b : Bundle) :
    (∀ e, b.model = .error e ↔ b.FailsWith e) ∧
      ((∃ e, b.model = .error e) ↔ ¬b.qnames.Nodup ∨
        ∃ group ∈ b.modules ++ b.packages, ∃ qname ∈ group.2, qname ∉ b.qnames) := by
  by_cases hnames : b.qnames.Nodup
  · refine ⟨fun e => (model_of_different hnames).trans (failsWith_of_different hnames).symm, ?_⟩
    rw [or_iff_right (not_not_intro hnames), ← Groups.exists_mem_members_iff]
    constructor
    · rintro ⟨e, he⟩
      obtain ⟨path, qname, hfirst, -⟩ := (model_of_different hnames).mp he
      have hunknown := List.find?_some hfirst
      exact ⟨_, List.mem_of_find?_eq_some hfirst, Forest.isNone_lookup_ofTrees.mp hunknown⟩
    · rintro ⟨member, hmember, hunknown⟩
      have hsome : (Forest.ofTrees b.classes).firstUnknown (b.modules ++ b.packages) ≠ none := by
        rw [Forest.firstUnknown, Ne, List.find?_eq_none]
        exact fun hnone => hnone member hmember (Forest.isNone_lookup_ofTrees.mpr hunknown)
      obtain ⟨⟨path, qname⟩, hfirst⟩ := Option.ne_none_iff_exists'.mp hsome
      exact ⟨_, (model_of_different hnames).mpr ⟨path, qname, hfirst, rfl⟩⟩
  · obtain ⟨qname, hfirst⟩ := Option.ne_none_iff_exists'.mp
      (mt firstRepeated_eq_none_iff_nodup.mp hnames)
    have herror := model_of_repeated hfirst
    refine ⟨fun e => ?_, fun _ => Or.inl hnames, fun _ => ⟨_, herror⟩⟩
    rw [herror, failsWith_of_repeated hfirst, Except.error.injEq, eq_comm]

end Bundle
end SchemaModels

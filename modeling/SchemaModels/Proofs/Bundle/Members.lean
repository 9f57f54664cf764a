/-
The members of the groups of a model are classes of its forest.

A member that is named is looked up, and the index leads to classes only.  Without modules the roots
are the members, and without packages the members of a package come from the modules in it.
-/
import SchemaModels.Proofs.Forest.Layout

namespace SchemaModels

theorem mapM_ok_forall {ε α β : Type} {h : α → Except ε β} {P : β → Prop}
    (step : ∀ a b, h a = .ok b → P b) :
    ∀ {l : List α} {bs : List β}, l.mapM h = .ok bs → ∀ b ∈ bs, P b
  | [], bs, hl, b, hb => by
    obtain rfl := Except.ok.inj hl
    exact absurd hb List.not_mem_nil
  | a :: rest, bs, hl, b, hb => by
    rw [List.mapM_cons] at hl
    obtain ⟨first, hfirst, hl⟩ := exists_ok_of_bind hl
    obtain ⟨others, hothers, hl⟩ := exists_ok_of_bind hl
    obtain rfl := Except.ok.inj hl
    rcases List.mem_cons.mp hb with rfl | hb
    · exact step a b hfirst
    · exact mapM_ok_forall step hothers b hb

def Groups.Forall {α : Type} (groups : Groups α) (P : α → Prop) : Prop :=
  ∀ group ∈ groups, ∀ member ∈ group.2, P member

namespace Forest

theorem lt_size_of_lookup {trees : List ClassTree} {qname : String} {id : Nat}
    (h : (ofTrees trees).lookup qname = some id) : id < (ofTrees trees).size := by
  obtain ⟨before, after, hsplit, -⟩ := List.lookup_eq_some_iff.mp h
  have hmem : (qname, id) ∈ (ofTrees trees).byQname := hsplit ▸ by simp
  obtain ⟨c, hc, -⟩ := (mem_byQname_ofTrees trees).mp hmem
  exact lt_size_of_get? hc

theorem lt_size_of_mem_roots {trees : List ClassTree} {id : Nat}
    (h : id ∈ (ofTrees trees).roots) : id < (ofTrees trees).size := by
  obtain ⟨c, hc, -⟩ := (mem_roots_ofTrees trees).mp h
  exact lt_size_of_get? hc

theorem forall_lt_of_resolveGroups {trees : List ClassTree} {groups : Groups String}
    {resolved : Groups Nat} (h : (ofTrees trees).resolveGroups groups = .ok resolved) :
    resolved.Forall (· < (ofTrees trees).size) := by
  refine mapM_ok_forall (fun group found hgroup => ?_) h
  obtain ⟨members, hmembers, hfound⟩ := exists_ok_of_bind hgroup
  obtain rfl := Except.ok.inj hfound
  refine mapM_ok_forall (fun qname id hid => ?_) hmembers
  split at hid
  · rename_i found hfound
    obtain rfl := Except.ok.inj hid
    exact lt_size_of_lookup hfound
  · exact absurd hid (by simp)

end Forest

namespace Model

variable {P : Nat → Prop}

theorem forall_insert {groups : Groups Nat} (hgroups : groups.Forall P) (path : String)
    {members : List Nat} (hmembers : ∀ id ∈ members, P id) :
    (groups.insert path members).Forall P := by
  induction groups with
  | nil =>
    intro group hgroup
    rw [List.mem_singleton.mp hgroup]
    exact hmembers
  | cons first rest ih =>
    obtain ⟨hfirst, hrest⟩ := List.forall_mem_cons.mp hgroups
    rw [Groups.insert]
    split
    · exact List.forall_mem_cons.mpr ⟨hmembers, hrest⟩
    · exact List.forall_mem_cons.mpr ⟨hfirst, ih hrest⟩

theorem forall_addMembers {known members : List Nat} (hknown : ∀ id ∈ known, P id)
    (hmembers : ∀ id ∈ members, P id) : ∀ id ∈ addMembers known members, P id := by
  refine List.foldlRecOn (motive := fun ids => ∀ id ∈ ids, P id) members _ hknown ?_
  intro ids hids id hid
  split
  · exact hids
  · intro j hj
    rcases List.mem_append.mp hj with hj | hj
    · exact hids j hj
    · rw [List.mem_singleton.mp hj]
      exact hmembers id hid

theorem forall_packagesOf {modules : Groups Nat} (hmodules : modules.Forall P) :
    (packagesOf modules).Forall P := by
  refine List.foldlRecOn (motive := fun packages : Groups Nat => packages.Forall P) modules _
    (fun _ h => absurd h List.not_mem_nil) ?_
  intro packages hpackages module hmodule
  have hknown : ∀ id ∈ (packages.lookup (packageOf module.1)).getD [], P id := by
    intro id hid
    cases hfound : packages.lookup (packageOf module.1) with
    | none =>
      rw [hfound] at hid
      exact absurd hid List.not_mem_nil
    | some known =>
      rw [hfound] at hid
      obtain ⟨before, after, hsplit, -⟩ := List.lookup_eq_some_iff.mp hfound
      have hmem : (packageOf module.1, known) ∈ packages := hsplit ▸ by simp
      exact hpackages _ hmem id hid
  exact forall_insert hpackages _ (forall_addMembers hknown (hmodules module hmodule))

end Model

/-- Groups that are given are resolved; roots or modules take the place of groups that are not. -/
theorem Bundle.groups_of_model {b : Bundle} {m : Model} (h : b.model = .ok m) :
    (m.modules = [(Model.standardModule, m.forest.roots)] ∨
        m.forest.resolveGroups b.modules = .ok m.modules) ∧
      (m.packages = Model.packagesOf m.modules ∨
        m.forest.resolveGroups b.packages = .ok m.packages) := by
  unfold Bundle.model at h
  obtain ⟨forest, -, h⟩ := exists_ok_of_bind h
  split at h
  all_goals
    split at h
    all_goals
      obtain ⟨modules, hmodules, h⟩ := exists_ok_of_bind h
      obtain ⟨packages, hpackages, h⟩ := exists_ok_of_bind h
      obtain rfl := Except.ok.inj h
  -- The packages are split first, then the modules.
  case isTrue.isTrue =>
    exact ⟨Or.inl (Except.ok.inj hmodules).symm, Or.inl (Except.ok.inj hpackages).symm⟩
  case isTrue.isFalse => exact ⟨Or.inr hmodules, Or.inl (Except.ok.inj hpackages).symm⟩
  case isFalse.isTrue => exact ⟨Or.inl (Except.ok.inj hmodules).symm, Or.inr hpackages⟩
  case isFalse.isFalse => exact ⟨Or.inr hmodules, Or.inr hpackages⟩

/-- Every member of a module or package of a model is a class of its forest. -/
theorem Bundle.forall_lt_of_model {b : Bundle} {m : Model} (h : b.model = .ok m) :
    m.modules.Forall (· < m.forest.size) ∧ m.packages.Forall (· < m.forest.size) := by
  obtain ⟨hmodules, hpackages⟩ := groups_of_model h
  rw [model_forest h] at hmodules hpackages ⊢
  have hall : m.modules.Forall (· < (Forest.ofTrees b.classes).size) := by
    rcases hmodules with hmodules | hmodules
    · rw [hmodules]
      intro group hgroup
      rw [List.mem_singleton.mp hgroup]
      exact fun id hid => Forest.lt_size_of_mem_roots hid
    · exact Forest.forall_lt_of_resolveGroups hmodules
  refine ⟨hall, ?_⟩
  rcases hpackages with hpackages | hpackages
  · rw [hpackages]
    exact Model.forall_packagesOf hall
  · exact Forest.forall_lt_of_resolveGroups hpackages

end SchemaModels

/-
Where the constant of a selection comes from.

A selection uses the constant of the entry that its reference picks.  The constant is defined by the
module that is written if this keeps the occurrence of that entry.  Otherwise it is imported from
the home of the enumeration, and the home defines it if it is written and keeps that occurrence.  An
enumeration that stands in no module has no home, and nothing is imported for it.
-/
import SchemaModels.Proofs.Emission

namespace SchemaModels

def Mapping.constant? : Mapping → Option String
  | .field ⟨_, .selection, [.name constant], _, _⟩ => some constant
  | _ => none

theorem Mapping.exists_field_of_constant? {mapping : Mapping} {constant : String}
    (h : mapping.constant? = some constant) : ∃ d, mapping = .field d ∧ d.kind = .selection := by
  unfold constant? at h
  split at h
  · exact ⟨_, rfl, rfl⟩
  · exact absurd h (by simp)

namespace ModuleSource

def usedConstants (source : ModuleSource) : List String :=
  source.models.flatMap fun block => block.fields.filterMap Mapping.constant?

def constants (source : ModuleSource) : List String := source.enums.map (·.constant)

end ModuleSource

namespace Context

instance (lines : List ImportLine) (i : ConstantImport) : Decidable (Imports lines i) :=
  inferInstanceAs (Decidable (∃ line ∈ lines, line.module = i.module ∧ i.constant ∈ line.names))

/-- A constant is defined in a module, or imported from one that is written and defines it. -/
def Resolves (ctx : Context) (module : String) (source : ModuleSource) (constant : String) : Prop :=
  constant ∈ source.constants ∨
    ∃ other ∈ ctx.modules, ∃ text ∈ ctx.emit other.1 other.2, constant ∈ text.constants ∧
      Imports source.imports ⟨ModulePath.relativeImport module other.1, constant⟩

instance (ctx : Context) (module : String) (source : ModuleSource) (constant : String) :
    Decidable (ctx.Resolves module source constant) :=
  inferInstanceAs (Decidable (_ ∨ ∃ other ∈ ctx.modules, ∃ text ∈ ctx.emit other.1 other.2, _ ∧ _))

/-- Every constant that a written module uses is resolved in it. -/
def AllResolved (ctx : Context) : Prop :=
  ∀ module ∈ ctx.modules, ∀ source ∈ ctx.emit module.1 module.2,
    ∀ constant ∈ source.usedConstants, ctx.Resolves module.1 source constant

instance (ctx : Context) : Decidable ctx.AllResolved :=
  inferInstanceAs (Decidable (∀ module ∈ ctx.modules, ∀ source ∈ ctx.emit module.1 module.2,
    ∀ constant ∈ source.usedConstants, ctx.Resolves module.1 source constant))

/-- A module keeps the occurrence of an entry. -/
def Keeps (ctx : Context) (roots : List Nat) (e : RegistryEntry) : Prop :=
  ∃ o ∈ ctx.keptOf roots, o.site = e.site

instance (ctx : Context) (roots : List Nat) (e : RegistryEntry) : Decidable (ctx.Keeps roots e) :=
  inferInstanceAs (Decidable (∃ o ∈ ctx.keptOf roots, o.site = e.site))

/-- The class of an entry has a home, which is written and keeps the occurrence of the entry. -/
def AtHome (ctx : Context) (e : RegistryEntry) : Prop :=
  ∃ home ∈ ctx.home? e.id, ∀ other ∈ ctx.modules, other.1 = home →
    ctx.isDropped other.2 = false ∧ ctx.Keeps other.2 e

instance (ctx : Context) (e : RegistryEntry) : Decidable (ctx.AtHome e) :=
  inferInstanceAs (Decidable (∃ home ∈ ctx.home? e.id, ∀ other ∈ ctx.modules, other.1 = home →
    ctx.isDropped other.2 = false ∧ ctx.Keeps other.2 e))

variable {m : Model} {ctx : Context}

theorem Gathered.constant_mem_of_keeps (hctx : ctx.Gathered m) {module : String}
    {roots : List Nat} {source : ModuleSource} (hemit : ctx.emit module roots = some source)
    {e : RegistryEntry} (he : e ∈ ctx.names.entries) (hsimple : ctx.reach.isSimple e.id = true)
    (hkeeps : ctx.Keeps roots e) : ctx.constantName e ∈ source.constants := by
  obtain ⟨o, ho, hsite⟩ := hkeeps
  have hid : o.id = e.id := congrArg Prod.fst hsite
  rw [ModuleSource.constants, (emit_eq_some hemit).2.1]
  exact constant_mem_enumBlocks ho (hid ▸ hsimple) (hctx.inStep.get?_of_site_eq he hsite)

def kindTree : ClassTree :=
  .node { qname := "Kind", name := "Kind", kind := .enumeration, values := [⟨"a", none⟩] } []

def docTree : ClassTree :=
  .node
    { qname := "Doc", name := "Doc", attributes := [{ name := "kind", types := [.named "Kind"] }] }
    []

/-- Each in a module of its own. -/
def twoModulesBundle : Bundle where
  classes := [docTree, kindTree]
  modules := [("models", ["Doc"]), ("types", ["Kind"])]

/-- The enumeration is in no module. -/
def homelessBundle : Bundle where
  classes := [docTree, kindTree]
  modules := [("models", ["Doc"])]
  packages := [("all", ["Doc", "Kind"])]

/-- The enumeration is in a module that is dropped. -/
def droppedHomeBundle : Bundle where
  classes := docTree :: kindTree :: ["Signature", "SignatureType", "SignedInfoType",
    "ReferenceType"].map fun name => .node { qname := name, name } []
  modules := [("models", ["Doc"]),
    ("types", ["Kind", "Signature", "SignatureType", "SignedInfoType", "ReferenceType"])]

/-- The enumeration is nested in another class. -/
def nestedBundle : Bundle where
  classes := [docTree, .node { qname := "Outer", name := "Outer" } [kindTree]]

/-- The enumeration is nested in another class, and a module holds the enumeration alone. -/
def nestedRootBundle : Bundle where
  classes := [docTree, .node { qname := "Outer", name := "Outer" } [kindTree]]
  modules := [("models", ["Doc"]), ("types", ["Kind"])]
  packages := [("all", ["Outer", "Doc"])]

theorem exists_not_allResolved (b : Bundle) (config : Config)
    (h : (b.model.toOption.any fun m => (collect m config fun _ => none).toOption.any
      fun ctx => ¬ ctx.AllResolved) = true) :
    ∃ m ctx, b.model = .ok m ∧ collect m config (fun _ => none) = .ok ctx ∧ ¬ ctx.AllResolved := by
  obtain ⟨m, ctx, hm, hctx, hnot⟩ := exists_collect b config _ (fun _ ctx => ¬ ctx.AllResolved) h
  exact ⟨m, ctx, hm, hctx, of_decide_eq_true hnot⟩

end Context
end SchemaModels

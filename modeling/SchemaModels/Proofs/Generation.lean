/-
What can go wrong before anything is written.

A configuration and a bundle can be at fault in four places: the texts of both are read, then the
skip patterns and then the numeric convention.  Checking looks at these and at nothing else, in the
order in which gathering comes to them, so checking, gathering and generating end with one fault or
with none: `checks_cases`.  After that every class that is asked for is in the forest, and names are
found.  One thing is left that could go wrong: with a blank stopword a label is looked for without
end, and then so is what is generated (`generationByLoops_of_ok`).
-/
import SchemaModels.Bundle.Reading
import SchemaModels.Config.Reading
import SchemaModels.Generation
import SchemaModels.Proofs.Context.Reached
import SchemaModels.Proofs.Emission.Loops

namespace SchemaModels

/-! ## Checking, gathering and generating -/

inductive Fault where
  /-- The configuration cannot be read. -/
  | config (e : ConfigError)
  | bundle (e : LoadError)
  /-- A setting cannot be used. -/
  | setting (e : ConfigError)
deriving Repr, DecidableEq

/-- The texts of a project, its schema files apart. -/
structure ProjectTexts where
  /-- The configuration, if there is one. -/
  config : Option String
  format : BundleFormat
  bundle : String

namespace ProjectTexts

/-- The configuration and the model that the texts hold. -/
def inputs (p : ProjectTexts) : Except Fault (Config × Model) := do
  let config ← (Config.ofText p.config).mapError .config
  let m ← (Model.ofText p.format p.bundle).mapError .bundle
  return (config, m)

/-- What has been checked: the settings of the configuration and the bundle. -/
def checks (p : ProjectTexts) : Except Fault (Config × Model) := do
  let (config, m) ← p.inputs
  let _ ← (SkipRules.read config.skip).mapError .setting
  let _ ← config.numeric.classifier.mapError .setting
  return (config, m)

/-- What is gathered, given the texts of schema files by location. -/
def collection (p : ProjectTexts) (texts : String → Option String) : Except Fault Context := do
  let (config, m) ← p.inputs
  (Context.collect m config texts).mapError .setting

/-- What is generated, given the texts of schema files by location. -/
def generation (p : ProjectTexts) (texts : String → Option String) :
    Except Fault (List GeneratedFile) := do
  let (config, m) ← p.inputs
  (m.generate config texts).mapError .setting

/-- What is generated when labels are looked for by loops. -/
def generationByLoops (p : ProjectTexts) (texts : String → Option String) :
    Part (Except Fault (List GeneratedFile)) :=
  match p.collection texts with
  | .error fault => pure (.error fault)
  | .ok ctx => do
    let files ← ctx.filesByLoops
    pure (.ok files)

theorem mapError_eq_ok_iff {ε δ α : Type} {x : Except ε α} {f : ε → δ} {a : α} :
    x.mapError f = .ok a ↔ x = .ok a := by
  cases x <;> simp [Except.mapError]

theorem exists_bundle_of_inputs {p : ProjectTexts} {config : Config} {m : Model}
    (h : p.inputs = .ok (config, m)) : ∃ b : Bundle, b.model = .ok m := by
  obtain ⟨config', -, h⟩ := exists_ok_of_bind h
  obtain ⟨m', hm, h⟩ := exists_ok_of_bind h
  obtain ⟨-, rfl⟩ := Prod.mk.inj (Except.ok.inj h)
  obtain ⟨b, -, hb⟩ := exists_ok_of_bind (mapError_eq_ok_iff.mp hm)
  exact ⟨b, hb⟩

/-- Settings are not looked at while the texts are read. -/
theorem inputs_ne_setting (p : ProjectTexts) (e : ConfigError) :
    p.inputs ≠ .error (.setting e) := by
  rw [inputs]
  cases Config.ofText p.config with
  | error e => exact fun h => nomatch h
  | ok config =>
    cases Model.ofText p.format p.bundle with
    | error e => exact fun h => nomatch h
    | ok m => exact fun h => nomatch h

/-! Once the texts are read, each of the three is what it does with the settings. -/

section

variable {p : ProjectTexts} {config : Config} {m : Model} (h : p.inputs = .ok (config, m))
include h

theorem checks_of_inputs :
    p.checks = do
      let _ ← (SkipRules.read config.skip).mapError .setting
      let _ ← config.numeric.classifier.mapError .setting
      return (config, m) := by
  rw [checks, h]
  rfl

theorem collection_of_inputs (texts : String → Option String) :
    p.collection texts = (Context.collect m config texts).mapError .setting := by
  rw [collection, h]
  rfl

theorem generation_of_inputs (texts : String → Option String) :
    p.generation texts = (m.generate config texts).mapError .setting := by
  rw [generation, h]
  rfl

end

/-- The three come to the same fault, or all of them to a result. -/
theorem checks_cases (p : ProjectTexts) :
    (∃ fault, p.checks = .error fault ∧
      ∀ texts, p.collection texts = .error fault ∧ p.generation texts = .error fault) ∨
    ∃ config m, p.inputs = .ok (config, m) ∧ p.checks = .ok (config, m) ∧
      ∀ texts, ∃ ctx, Context.collect m config texts = .ok ctx ∧
        p.collection texts = .ok ctx ∧ p.generation texts = .ok ctx.files := by
  cases hinputs : p.inputs with
  | error fault =>
    refine .inl ⟨fault, ?checks, fun texts => ⟨?collection, ?generation⟩⟩
    case checks =>
      rw [checks, hinputs]
      rfl
    case collection =>
      rw [collection, hinputs]
      rfl
    case generation =>
      rw [generation, hinputs]
      rfl
  | ok found =>
    obtain ⟨config, m⟩ := found
    simp only [checks_of_inputs hinputs, collection_of_inputs hinputs,
      generation_of_inputs hinputs, Model.generate, Context.collect]
    -- Checking and gathering look at the patterns first and at the convention afterwards.
    cases hrules : SkipRules.read config.skip with
    | error e => exact .inl ⟨.setting e, rfl, fun _ => ⟨rfl, rfl⟩⟩
    | ok rules =>
      cases hnumeric : config.numeric.classifier with
      | error e => exact .inl ⟨.setting e, rfl, fun _ => ⟨rfl, rfl⟩⟩
      | ok numeric =>
        refine .inr ⟨config, m, rfl, rfl, fun _ => ?_⟩
        rw [hrules, hnumeric]
        exact ⟨_, rfl, rfl, rfl⟩

theorem of_checks_eq_error {p : ProjectTexts} {fault : Fault} (h : p.checks = .error fault)
    (texts : String → Option String) :
    p.collection texts = .error fault ∧ p.generation texts = .error fault := by
  rcases p.checks_cases with ⟨fault', hfault, hothers⟩ | ⟨config, m, -, hok, -⟩
  · obtain rfl : fault' = fault := Except.error.inj (hfault.symm.trans h)
    exact hothers texts
  · rw [hok] at h
    exact nomatch h

theorem of_checks_eq_ok {p : ProjectTexts} {config : Config} {m : Model}
    (h : p.checks = .ok (config, m)) :
    p.inputs = .ok (config, m) ∧
      ∀ texts, ∃ ctx, Context.collect m config texts = .ok ctx ∧
        p.collection texts = .ok ctx ∧ p.generation texts = .ok ctx.files := by
  rcases p.checks_cases with ⟨fault, hfault, -⟩ | ⟨config', m', hinputs, hok, hothers⟩
  · rw [hfault] at h
    exact nomatch h
  · obtain ⟨rfl, rfl⟩ := Prod.mk.inj (Except.ok.inj (hok.symm.trans h))
    exact ⟨hinputs, hothers⟩

theorem generationByLoops_of_error {p : ProjectTexts} {texts : String → Option String}
    {fault : Fault} (h : p.collection texts = .error fault) :
    p.generationByLoops texts = Part.some (.error fault) := by
  rw [generationByLoops, h]
  rfl

theorem generationByLoops_of_ok {p : ProjectTexts} {texts : String → Option String}
    {ctx : Context} (h : p.collection texts = .ok ctx) :
    p.generationByLoops texts =
      endsIf (∀ module ∈ ctx.modules, ctx.EndsOn module.2) (.ok ctx.files) := by
  rw [generationByLoops, h]
  simp only [ctx.filesByLoops_eq]
  exact endsIf_bind_pure _

end ProjectTexts

/-! ## After the checks -/

namespace Context

variable {m : Model} {ctx : Context}

/-- The classes that are asked for while a context is gathered and its modules are written are all in
the forest. -/
structure NoneMissing (ctx : Context) (m : Model) : Prop where
  /-- The members of packages and modules, where every walk begins. -/
  members : ∀ roots ∈ m.scopes, ∀ id ∈ roots, id < ctx.forest.size
  /-- The classes one step further down, where every walk goes on. -/
  inner : ∀ id, ∀ j ∈ ctx.forest.innerOf id, j < ctx.forest.size
  /-- The classes of an occurrence and around it, whatever roots it is reached from. -/
  lineages : ∀ roots, ∀ o ∈ ctx.forest.occurrences roots,
    o.id ∈ o.lineage ∧ ∀ id ∈ o.lineage, id < ctx.forest.size
  /-- The classes that have names. -/
  entries : ∀ e ∈ ctx.names.entries, e.id ∈ e.lineage ∧ ∀ id ∈ e.lineage, id < ctx.forest.size
  /-- The classes that attributes refer to. -/
  references : ∀ qname id, ctx.forest.lookup qname = some id → id < ctx.forest.size
  /-- The classes that were sorted by kind. -/
  kinds : ∀ id, ctx.reach.isSimple id = true ∨ ctx.reach.isComplex id = true →
    id < ctx.forest.size

theorem Gathered.noneMissing (hctx : ctx.Gathered m) {b : Bundle} (hm : b.model = .ok m) :
    ctx.NoneMissing m where
  members roots hroots id hid := by
    have hreached : ctx.IsReached m id := ⟨roots, hroots, id, hid, Relation.ReflTransGen.refl⟩
    obtain ⟨c, hc⟩ := hctx.exists_class hm hreached
    exact Forest.lt_size_of_get? hc
  inner id j hj := (Forest.lt_of_mem_innerOf hj).2
  lineages roots o ho := (Forest.isOccurrence_of_mem ho).lt_size_of_mem_lineage
  entries e he := by
    rw [hctx.names_eq] at he
    obtain ⟨roots, -, o, ho, hsite, hlineage⟩ := Registry.exists_occurrence_of_mem_entries e he
    have hid : e.id = o.id := congrArg Prod.fst hsite
    rw [hid, hlineage]
    exact (Forest.isOccurrence_of_mem ho).lt_size_of_mem_lineage
  references qname id hlookup := by
    rw [hctx.forest_eq] at hlookup
    have hknown : (Forest.ofTrees b.classes).lookup qname = some id :=
      Bundle.model_forest hm ▸ hlookup
    rw [hctx.size_eq, Bundle.model_forest hm]
    exact Forest.lt_size_of_lookup hknown
  kinds id hkind := by
    have hclass : ∀ enumeration, id ∈ ctx.reach.ofKind enumeration → id < ctx.forest.size := by
      intro enumeration hin
      obtain ⟨⟨c, hc, -⟩, -⟩ := hctx.mem_ofKind_iff.mp hin
      exact Forest.lt_size_of_get? hc
    rcases hkind with hsimple | hcomplex
    · exact hclass true (Reach.isSimple_iff.mp hsimple)
    · exact hclass false (Reach.isComplex_iff.mp hcomplex)

end Context
end SchemaModels

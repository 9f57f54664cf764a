/-
The commands agree on what is at fault.

A project is read the same way by every command, so each comes to what the texts of the project say
(`runOn_config`, `runOn_model`), and the schema files beside the bundle are never at fault
(`runOn_context`).  What is at fault for checking is at fault for the other two and stops them before
anything is written, and where checking finds nothing they do not fail: `commands_agree`.  But for
blank stopwords they come to a result then.
-/
import SchemaModels.Proofs.Generation
import SchemaModels.Proofs.Session

namespace SchemaModels

/-! ## Schema files -/

theorem SchemaFiles.ofTexts_congr {texts texts' : String → Option String} {locations : List String}
    (h : ∀ location ∈ locations, texts location = texts' location) :
    ofTexts texts locations = ofTexts texts' locations := by
  rw [ofTexts, ofTexts]
  refine List.filterMap_congr fun location hlocation => ?_
  rw [h location (List.mem_eraseDups.mp hlocation)]

theorem Context.collect_congr {m : Model} {config : Config} {texts texts' : String → Option String}
    (h : ∀ location ∈ m.locations, texts location = texts' location) :
    collect m config texts = collect m config texts' := by
  rw [collect, collect, SchemaFiles.ofTexts_congr h]

def FileTree.schemaText (tree : FileTree) (bundle location : String) : Option String :=
  tree.read? (FilePath.join (FilePath.parent bundle) location)

namespace Steps

variable {r : Record}

theorem runOn_schemaTexts (bundle : String) (locations : List String) (r : Record) :
    (schemaTexts bundle locations).runOn r =
      (.ok (locations.filterMap fun location =>
        (r.tree.schemaText bundle location).map fun text => (location, text)), r) := by
  induction locations with
  | nil => rfl
  | cons location rest ih =>
    rw [schemaTexts, runOn_bind_ok (runOn_read _ r), runOn_bind_ok ih, List.filterMap_cons,
      FileTree.schemaText, FileTree.read?]
    cases r.tree.read (FilePath.join (FilePath.parent bundle) location) with
    | ok text => rfl
    | error fault => rfl

theorem lookup_filterMap (texts : String → Option String) (location : String)
    (locations : List String) :
    (locations.filterMap fun l => (texts l).map fun text => (l, text)).lookup location =
      if location ∈ locations then texts location else none := by
  induction locations with
  | nil => rfl
  | cons first rest ih =>
    rw [List.filterMap_cons]
    by_cases hfirst : location = first
    · subst hfirst
      cases htext : texts location with
      | none => simp [ih, htext]
      | some text => simp
    · cases texts first with
      | none => simp [ih, hfirst]
      | some text => simp [List.lookup_cons, ih, hfirst, beq_eq_false_iff_ne.mpr hfirst]

theorem runOn_context (bundle : String) (m : Model) (config : Config) (r : Record) :
    (context bundle m config).runOn r =
      (.ok (Context.collect m config (r.tree.schemaText bundle)), r) := by
  rw [context, runOn_bind_ok (runOn_schemaTexts bundle m.locations r), runOn_pure]
  rw [Context.collect_congr fun location hlocation => ?_]
  rw [lookup_filterMap, if_pos hlocation]

end Steps

/-! ## What a command reads -/

/-- A tree holds a project whose bundle stands at a path.  Without a configuration everything has its
standard value, but nothing else may stand in its place. -/
structure FileTree.Holds (tree : FileTree) (path : String) (p : ProjectTexts) : Prop where
  format : p.format = Steps.formatOf path
  bundle : tree.read path = .ok p.bundle
  config : ∀ text, p.config = some text → tree.read Config.fileName = .ok text
  noConfig : p.config = none →
    ∃ fault, tree.read Config.fileName = .error fault ∧ fault ≠ .isDirectory

/-- How a command that reads a bundle reports a fault. -/
def Fault.failure (path : String) : Fault → Failure
  | config e => ⟨Steps.configMessage e, none⟩
  | bundle e => ⟨"invalid bundle " ++ path, some (Steps.loadMessage e)⟩
  | setting e => ⟨Steps.configMessage e, none⟩

/-- How a fault is reported when files are generated: a setting is at fault for the generator, which
is the cause of the failure. -/
def Fault.generationFailure (path : String) : Fault → Failure
  | setting e =>
    ⟨"configuration error: " ++ Steps.configMessage e, some (Steps.configMessage e)⟩
  | fault => fault.failure path

namespace Steps

variable {α : Type} {r : Record} {path : String} {p : ProjectTexts}

theorem runOn_configText (h : r.tree.Holds path p) : configText.runOn r = (.ok p.config, r) := by
  rw [configText, runOn_bind_ok (runOn_read _ r)]
  cases hconfig : p.config with
  | some text =>
    rw [h.config text hconfig]
    rfl
  | none =>
    obtain ⟨fault, hfault, hne⟩ := h.noConfig hconfig
    rw [hfault]
    cases fault with
    | isDirectory => exact absurd rfl hne
    | missing => rfl
    | present => rfl
    | notDirectory => rfl
    | system text => rfl

theorem runOn_config (h : r.tree.Holds path p) :
    config.runOn r = ((Config.ofText p.config).mapError fun e => ⟨configMessage e, none⟩, r) := by
  rw [config, runOn_bind_ok (runOn_configText h), runOn_orReject]

theorem runOn_model (h : r.tree.Holds path p) :
    (model path).runOn r = ((Model.ofText p.format p.bundle).mapError fun e =>
      ⟨"invalid bundle " ++ path, some (loadMessage e)⟩, r) := by
  have htext : (orFail ("failed to read " ++ path) (r.tree.read path)).runOn r =
      (.ok p.bundle, r) := by
    rw [runOn_orFail, h.bundle]
    rfl
  rw [model, runOn_bind_ok (runOn_read path r), runOn_bind_ok htext, h.format]
  cases Model.ofText (formatOf path) p.bundle with
  | ok m => rfl
  | error e => rfl

/-- Every command that needs a bundle reads the texts of the project and goes on with what they
hold. -/
theorem runOn_inputs (h : r.tree.Holds path p) (next : Config → Model → Steps α) :
    (config >>= fun c => model path >>= fun m => next c m).runOn r =
      match p.inputs with
      | .ok (c, m) => (next c m).runOn r
      | .error fault => (.error (fault.failure path), r) := by
  rw [runOn_bind, runOn_config h, ProjectTexts.inputs]
  cases Config.ofText p.config with
  | error e => rfl
  | ok c =>
    show (model path >>= fun m => next c m).runOn r = _
    rw [runOn_bind, runOn_model h]
    cases Model.ofText p.format p.bundle with
    | error e => rfl
    | ok m => rfl

/-! ## Three commands -/

theorem runOn_validate (h : r.tree.Holds path p) :
    match p.checks with
    | .ok _ => ((validate path).runOn r).1 = .ok ()
    | .error fault => (validate path).runOn r = (.error (fault.failure path), r) := by
  rw [validate, runOn_inputs h]
  cases hinputs : p.inputs with
  | error fault =>
    rw [ProjectTexts.checks, hinputs]
    rfl
  | ok found =>
    obtain ⟨c, m⟩ := found
    rw [ProjectTexts.checks_of_inputs hinputs]
    simp only [runOn_bind, runOn_orReject]
    cases SkipRules.read c.skip with
    | error e => rfl
    | ok rules =>
      cases c.numeric.classifier with
      | error e => rfl
      | ok numeric => rfl

theorem runOn_inspect (h : r.tree.Holds path p) (format : BundleFormat) :
    match p.collection (r.tree.schemaText path) with
    | .ok _ => ((inspect path format).runOn r).1 = .ok ()
    | .error fault => (inspect path format).runOn r = (.error (fault.failure path), r) := by
  rw [inspect, runOn_inputs h]
  cases hinputs : p.inputs with
  | error fault =>
    rw [ProjectTexts.collection, hinputs]
    rfl
  | ok found =>
    obtain ⟨c, m⟩ := found
    rw [ProjectTexts.collection_of_inputs hinputs]
    simp only [runOn_bind, runOn_context, runOn_orReject]
    cases Context.collect m c (r.tree.schemaText path) with
    | error e => rfl
    | ok ctx =>
      cases format with
      | json => rfl
      | yaml => rfl

/-- What is left to do when files have been generated: writing them and formatting what was
written. -/
def deliver (config : Config) (output : String) (unformatted : Bool)
    (files : List GeneratedFile) : Steps Unit := do
  makeDirs "output directory" output
  writeFiles output files
  if config.format.enabled && !unformatted then format config.format.command output files
  reportLine ("Generated " ++ toString files.length ++ " files in " ++ output)

theorem generate_eq (path : String) (output : Option String) (unformatted : Bool) :
    generate (some path) output unformatted =
      (config >>= fun c => model path >>= fun m => do
        reportLine ("Generating " ++ path ++ " → " ++ output.getD c.output)
        match ← context path m c with
        | .error e => throw ⟨"configuration error: " ++ configMessage e, some (configMessage e)⟩
        | .ok ctx => deliver c (output.getD c.output) unformatted ctx.files) := rfl

theorem runOn_generate (h : r.tree.Holds path p) (output : Option String) (unformatted : Bool) :
    match p.generation (r.tree.schemaText path) with
    | .ok files => ∃ config m r', p.inputs = .ok (config, m) ∧ r'.tree = r.tree ∧
      (generate (some path) output unformatted).runOn r =
        (deliver config (output.getD config.output) unformatted files).runOn r'
    | .error fault => ∃ r', r'.tree = r.tree ∧
      (generate (some path) output unformatted).runOn r =
        (.error (fault.generationFailure path), r') := by
  rw [generate_eq, runOn_inputs h]
  cases hinputs : p.inputs with
  | error fault =>
    rw [ProjectTexts.generation, hinputs]
    refine ⟨r, rfl, ?_⟩
    cases fault with
    | config e => rfl
    | bundle e => rfl
    | setting e => exact absurd hinputs (p.inputs_ne_setting e)
  | ok found =>
    obtain ⟨c, m⟩ := found
    rw [ProjectTexts.generation_of_inputs hinputs, Model.generate]
    simp only [runOn_bind, runOn_reportLine, runOn_context, Record.tree_say]
    cases Context.collect m c (r.tree.schemaText path) with
    | error e => exact ⟨_, Record.tree_say r .report _, rfl⟩
    | ok ctx => exact ⟨c, m, _, rfl, Record.tree_say r .report _, rfl⟩

/-! ## Agreement -/

/-- All three commands fail with one fault, and nothing is written. -/
structure AllFail (p : ProjectTexts) (fault : Fault) : Prop where
  collection : ∀ texts, p.collection texts = .error fault
  generation : ∀ texts, p.generation texts = .error fault ∧
    p.generationByLoops texts = Part.some (.error fault)
  validate : ∀ r path, r.tree.Holds path p →
    (validate path).runOn r = (.error (fault.failure path), r)
  inspect : ∀ r path, r.tree.Holds path p → ∀ format,
    (inspect path format).runOn r = (.error (fault.failure path), r)
  generate : ∀ r path, r.tree.Holds path p → ∀ output unformatted, ∃ r', r'.tree = r.tree ∧
    (generate (some path) output unformatted).runOn r = (.error (fault.generationFailure path), r')

/-- None of the three commands fails, whatever schema files there are.  Nothing that is asked for on
the way is missing and names are found.  Checking and inspecting come to a result.  Generating does
if the labels are found, and goes on to write the files. -/
structure NoneFails (p : ProjectTexts) (config : Config) (m : Model) : Prop where
  gathered : ∀ texts, ∃ ctx, Context.collect m config texts = .ok ctx ∧
    p.collection texts = .ok ctx ∧ ctx.NoneMissing m ∧
    p.generationByLoops texts =
      endsIf (∀ module ∈ ctx.modules, ctx.EndsOn module.2) (.ok ctx.files)
  generation : ∀ texts result, p.generationByLoops texts = Part.some result →
    p.generation texts = result
  names : ∀ (r : Registry) (unique full : String),
    ∃ path ∈ r.candidates unique full, r.nameOf path ∉ r.taken
  labels : config.labels.options.HasNoBlankStopword → ∀ texts, ∃ files,
    p.generationByLoops texts = Part.some (.ok files)
  validate : ∀ r path, r.tree.Holds path p → ((validate path).runOn r).1 = .ok ()
  inspect : ∀ r path, r.tree.Holds path p → ∀ format, ((inspect path format).runOn r).1 = .ok ()
  generate : ∀ r path, r.tree.Holds path p → ∀ files,
    p.generationByLoops (r.tree.schemaText path) = Part.some (.ok files) →
    ∀ output unformatted, ∃ r', r'.tree = r.tree ∧
      (generate (some path) output unformatted).runOn r =
        (deliver config (output.getD config.output) unformatted files).runOn r'

theorem allFail_of_checks {fault : Fault} (hchecks : p.checks = .error fault) :
    AllFail p fault where
  collection texts := (ProjectTexts.of_checks_eq_error hchecks texts).1
  generation texts := by
    obtain ⟨hcollection, hgeneration⟩ := ProjectTexts.of_checks_eq_error hchecks texts
    exact ⟨hgeneration, ProjectTexts.generationByLoops_of_error hcollection⟩
  validate r path h := by
    have hvalidate := runOn_validate h
    rw [hchecks] at hvalidate
    exact hvalidate
  inspect r path h format := by
    have hinspect := runOn_inspect h format
    rw [(ProjectTexts.of_checks_eq_error hchecks _).1] at hinspect
    exact hinspect
  generate r path h output unformatted := by
    have hgenerate := runOn_generate h output unformatted
    rw [(ProjectTexts.of_checks_eq_error hchecks _).2] at hgenerate
    exact hgenerate

theorem noneFails_of_checks {c : Config} {m : Model} (hchecks : p.checks = .ok (c, m)) :
    NoneFails p c m := by
  obtain ⟨hinputs, hothers⟩ := ProjectTexts.of_checks_eq_ok hchecks
  obtain ⟨b, hm⟩ := ProjectTexts.exists_bundle_of_inputs hinputs
  have hgeneration : ∀ texts result, p.generationByLoops texts = Part.some result →
      p.generation texts = result := by
    intro texts result hresult
    obtain ⟨ctx, -, hcollection, hfiles⟩ := hothers texts
    rw [ProjectTexts.generationByLoops_of_ok hcollection] at hresult
    rw [hfiles, eq_of_endsIf_eq_some hresult]
  refine ⟨?gathered, hgeneration, fun r => r.exists_candidate_free, ?labels, ?validate, ?inspect,
    ?generate⟩
  case gathered =>
    intro texts
    obtain ⟨ctx, hctx, hcollection, -⟩ := hothers texts
    obtain ⟨-, hg⟩ := Context.gathered_of_collect hm hctx
    exact ⟨ctx, hctx, hcollection, hg.noneMissing hm,
      ProjectTexts.generationByLoops_of_ok hcollection⟩
  case labels =>
    intro hstopwords texts
    obtain ⟨ctx, hctx, hcollection, -⟩ := hothers texts
    obtain ⟨rfl, -⟩ := Context.gathered_of_collect hm hctx
    rw [ProjectTexts.generationByLoops_of_ok hcollection]
    exact ⟨ctx.files, endsIf_of (fun _ _ => Context.endsOn_of_hasNoBlankStopword hstopwords _) _⟩
  case validate =>
    intro r path h
    have hvalidate := runOn_validate h
    rw [hchecks] at hvalidate
    exact hvalidate
  case inspect =>
    intro r path h format
    have hinspect := runOn_inspect h format
    obtain ⟨ctx, -, hcollection, -⟩ := hothers (r.tree.schemaText path)
    rw [hcollection] at hinspect
    exact hinspect
  case generate =>
    intro r path h files hfiles output unformatted
    have hgenerate := runOn_generate h output unformatted
    rw [hgeneration _ _ hfiles] at hgenerate
    obtain ⟨c', m', r', hinputs', htree, hrun⟩ := hgenerate
    obtain ⟨rfl, rfl⟩ := Prod.mk.inj (Except.ok.inj (hinputs.symm.trans hinputs'))
    exact ⟨r', htree, hrun⟩

/-- Where the checks find a fault all three commands fail with it, and where they find none, none of
the three fails.  All come to a result then, unless generating looks for a label without end. -/
theorem commands_agree (p : ProjectTexts) :
    (∀ fault, p.checks = .error fault → AllFail p fault) ∧
      ∀ config m, p.checks = .ok (config, m) → NoneFails p config m :=
  ⟨fun _ hchecks => allFail_of_checks hchecks, fun _ _ hchecks => noneFails_of_checks hchecks⟩

theorem exists_checks (p : ProjectTexts) (check : Config → Model → Bool)
    (h : (p.checks.toOption.any fun found => check found.1 found.2) = true) :
    ∃ config m, p.checks = .ok (config, m) ∧ check config m = true := by
  cases hchecks : p.checks with
  | error fault =>
    rw [hchecks] at h
    exact nomatch h
  | ok found =>
    rw [hchecks] at h
    exact ⟨found.1, found.2, rfl, h⟩

/-- A project of one class with a documented attribute, with a configuration or without. -/
def docProject (config : Option String) : ProjectTexts :=
  ⟨config, .yaml, "classes:\n- qname: Doc\n  name: Doc\n  attributes:\n" ++
    "  - name: total\n    documentation: Valor total\n    types:\n    - datatype: string\n"⟩

def docRecord (config : Option String) : Record where
  tree := .ofPaths (("docs/classes.yaml", (docProject config).bundle) ::
    (config.map fun text => (Config.fileName, text)).toList)

/-- A skip pattern whose parenthesis is never closed stops all commands.  With a blank stopword the
project can be checked and inspected, but what is generated from it never comes.  Without a
configuration the project can be used. -/
theorem pattern_stops_all_stopword_never_ends :
    ((docRecord (some "skip:\n- (\n")).tree.Holds "docs/classes.yaml"
        (docProject (some "skip:\n- (\n")) ∧
      AllFail (docProject (some "skip:\n- (\n")) (.setting (.invalidSkipPattern "("))) ∧
    (∃ config m, (docProject (some "labels:\n  stopwords: ['']\n")).checks = .ok (config, m) ∧
      NoneFails (docProject (some "labels:\n  stopwords: ['']\n")) config m ∧
      (docProject (some "labels:\n  stopwords: ['']\n")).generationByLoops (fun _ => none) =
        Part.none) ∧
    (docRecord none).tree.Holds "docs/classes.yaml" (docProject none) ∧
    ∃ config m files, NoneFails (docProject none) config m ∧
      (docProject none).generationByLoops (fun _ => none) = Part.some (.ok files) := by
  refine ⟨⟨?holds, ?fails⟩, ?neverEnds, ?holdsPlain, ?succeeds⟩
  case holds =>
    refine ⟨by decide +kernel, by decide +kernel, fun text htext => ?_, fun h => nomatch h⟩
    obtain rfl := Option.some.inj htext
    decide +kernel
  case fails =>
    have hfault : (match (docProject (some "skip:\n- (\n")).checks with
        | .ok _ => none
        | .error fault => some fault) = some (.setting (.invalidSkipPattern "(")) := by
      decide +kernel
    refine (commands_agree _).1 _ ?_
    split at hfault
    · exact nomatch hfault
    · rename_i fault hchecks
      rw [hchecks, Option.some.inj hfault]
  case neverEnds =>
    obtain ⟨config, m, hchecks, hstuck⟩ := exists_checks
      (docProject (some "labels:\n  stopwords: ['']\n"))
      (fun config m => (Context.collect m config fun _ => none).toOption.any fun ctx =>
        ctx.modules.any fun module => !decide (ctx.EndsOn module.2))
      (by decide +kernel)
    have hnone := (commands_agree _).2 config m hchecks
    obtain ⟨ctx, hctx, -, -, hgeneration⟩ := hnone.gathered fun _ => none
    rw [hctx] at hstuck
    obtain ⟨module, hmodule, hnever⟩ := List.any_eq_true.mp hstuck
    refine ⟨config, m, hchecks, hnone, hgeneration.trans (endsIf_of_not (fun hends => ?_) _)⟩
    simp [hends module hmodule] at hnever
  case holdsPlain =>
    refine ⟨by decide +kernel, by decide +kernel, fun text h => (nomatch h), fun _ => ?_⟩
    exact ⟨.missing, by decide +kernel, by decide⟩
  case succeeds =>
    obtain ⟨config, m, hchecks, hstopwords⟩ := exists_checks (docProject none)
      (fun config _ => decide config.labels.options.HasNoBlankStopword) (by decide +kernel)
    have hnone := (commands_agree _).2 config m hchecks
    obtain ⟨files, hfiles⟩ := hnone.labels (of_decide_eq_true hstopwords) fun _ => none
    exact ⟨config, m, files, hnone, hfiles⟩

end Steps
end SchemaModels

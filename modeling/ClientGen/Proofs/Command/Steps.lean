import ClientGen.Command.Run

/-!
# Steps of a run

A step of a run tells what it does, but what comes of it does not depend on what was told before.
Up to the first file that is written, a step only looks at the files: `Gives` says which result it
has on them, and that it leaves them as they are. Each step has a lemma for everything that it can
give, and `Gives.bind` and `Gives.bind_error` put the steps together.
-/

namespace ClientGen.Command

/-! ### Results of steps -/

section Steps

variable {α β : Type} {tree : FileTree} {step : Step α} {next : α → Step β} {value : α}
  {failure : RunFailure} {result : Except RunFailure β}

/-- Whether a step has a result on some files, whatever was told before, and leaves the files as
they are. -/
def Gives (tree : FileTree) (step : Step α) (result : Except RunFailure α) : Prop :=
  ∀ log, ∃ told, step.run.run { files := tree, log } = (result, { files := tree, log := told })

theorem gives_pure (value : α) : Gives tree (pure value) (.ok value) :=
  fun log => ⟨log, rfl⟩

theorem gives_throw (failure : RunFailure) : Gives tree (throw failure : Step α) (.error failure) :=
  fun log => ⟨log, rfl⟩

theorem gives_inform (text : String) : Gives tree (inform text) (.ok ()) :=
  fun log => ⟨log ++ [⟨.info, text⟩], rfl⟩

theorem gives_warn (text : String) : Gives tree (warn text) (.ok ()) :=
  fun log => ⟨log ++ [⟨.warning, text⟩], rfl⟩

theorem gives_currentFiles : Gives tree currentFiles (.ok tree) :=
  fun log => ⟨log, rfl⟩

theorem Gives.bind (done : Gives tree step (.ok value)) (goesOn : Gives tree (next value) result) :
    Gives tree (step >>= next) result := by
  intro log
  obtain ⟨told, run⟩ := done log
  rw [ExceptT.run_bind, StateT.run_bind, run]
  exact goesOn told

theorem Gives.bind_error (failed : Gives tree step (.error failure)) :
    Gives tree (step >>= next) (.error failure) := by
  intro log
  obtain ⟨told, run⟩ := failed log
  rw [ExceptT.run_bind, StateT.run_bind, run]
  exact ⟨told, rfl⟩

end Steps

theorem gives_forM_warn {α : Type} {tree : FileTree} (items : List α) (text : α → String) :
    Gives tree (items.forM fun item => warn (text item)) (.ok ()) := by
  induction items with
  | nil => exact gives_pure ()
  | cons item items ih => exact (gives_warn _).bind ih

/-! ### What is read -/

/-- Whether a request can be followed at all. -/
structure Request.IsAccepted (request : Request) (tree : FileTree) : Prop where
  input : (tree.at? request.input).isNone = false
  output : (tree.at? request.output).any FileTree.isFile = false
  helpers : (Text.trim request.options.helpersModule).isEmpty = false
  validation : (request.options.observable &&
    (Text.trim request.options.validationModule).isEmpty) = false

/-- The manifests at some paths that can be read. -/
def readable (tree : FileTree) (paths : List String) : List (String × Manifest) :=
  paths.filterMap fun path =>
    (Files.readManifest tree path).toOption.map fun manifest => (path, manifest)

/-- The documentation at some paths, as far as it can be read. -/
def documentation (tree : FileTree) (paths : List String) (docs : DocIndex) : DocIndex :=
  (paths.filterMap fun path => (tree.text? path).bind DocIndex.ofXml?).foldl DocIndex.merge docs

/-- The conventions that are open to a run: the one that was asked for, or those that are found. -/
def Request.conventions (request : Request) (catalog : Catalog) : List Convention :=
  request.convention.elim (Convention.detect catalog) ([·])

/-! ### Single steps -/

section Steps

variable {request : Request} {tree : FileTree} {model : ServiceModel ClassId}

theorem gives_check (accepted : request.IsAccepted tree) :
    Gives tree (check request) (.ok ()) := by
  rw [check]
  refine gives_currentFiles.bind ?_
  simp only [accepted.input, accepted.output, accepted.helpers, accepted.validation,
    Bool.false_eq_true, if_false]
  exact (gives_inform _).bind ((gives_inform _).bind ((gives_inform _).bind (gives_inform _)))

theorem gives_check_noInput (missing : tree.at? request.input = none) :
    Gives tree (check request) (.error (.noInput request.input)) := by
  rw [check]
  refine gives_currentFiles.bind ?_
  simp only [missing, Option.isNone_none, if_true]
  exact (gives_throw _).bind_error

theorem gives_check_outputIsFile (input : (tree.at? request.input).isNone = false)
    (isFile : (tree.at? request.output).any FileTree.isFile = true) :
    Gives tree (check request) (.error (.outputIsFile request.output)) := by
  rw [check]
  refine gives_currentFiles.bind ?_
  simp only [input, isFile, Bool.false_eq_true, if_false, if_true]
  exact (gives_throw _).bind_error

theorem gives_check_noHelpersModule (input : (tree.at? request.input).isNone = false)
    (output : (tree.at? request.output).any FileTree.isFile = false)
    (blank : (Text.trim request.options.helpersModule).isEmpty = true) :
    Gives tree (check request) (.error .noHelpersModule) := by
  rw [check]
  refine gives_currentFiles.bind ?_
  simp only [input, output, blank, Bool.false_eq_true, if_false, if_true]
  exact (gives_throw _).bind_error

theorem gives_check_noValidationModule (input : (tree.at? request.input).isNone = false)
    (output : (tree.at? request.output).any FileTree.isFile = false)
    (helpers : (Text.trim request.options.helpersModule).isEmpty = false)
    (blank : (request.options.observable &&
      (Text.trim request.options.validationModule).isEmpty) = true) :
    Gives tree (check request) (.error .noValidationModule) := by
  rw [check]
  refine gives_currentFiles.bind ?_
  simp only [input, output, helpers, blank, Bool.false_eq_true, if_false, if_true]
  exact (gives_throw _).bind_error

theorem gives_scan {found : Files.Scan} (scanned : Files.scan? tree request.input = some found)
    (given : found.manifests ≠ []) : Gives tree (scan request) (.ok found) := by
  rw [scan]
  refine (gives_inform _).bind (gives_currentFiles.bind ?_)
  simp only [scanned, List.isEmpty_eq_false_iff.mpr given, Bool.false_eq_true, if_false]
  exact (gives_inform _).bind (gives_pure _)

theorem gives_scan_noManifests {found : Files.Scan}
    (scanned : Files.scan? tree request.input = some found) (none : found.manifests = []) :
    Gives tree (scan request) (.error (.noManifests request.input)) := by
  rw [scan]
  refine (gives_inform _).bind (gives_currentFiles.bind ?_)
  simp only [scanned, none, List.isEmpty_nil, if_true]
  exact (gives_inform _).bind (gives_throw _).bind_error

theorem gives_readManifests (tree : FileTree) (paths : List String) :
    Gives tree (readManifests paths) (.ok (readable tree paths)) := by
  induction paths with
  | nil => exact gives_pure _
  | cons path paths ih =>
    rw [readManifests]
    refine gives_currentFiles.bind ?_
    cases read : Files.readManifest tree path with
    | error failure =>
      have leftOut : readable tree (path :: paths) = readable tree paths := by
        simp [readable, read, Except.toOption]
      rw [leftOut]
      exact (gives_warn _).bind ih
    | ok manifest =>
      have kept : readable tree (path :: paths) = (path, manifest) :: readable tree paths := by
        simp [readable, read, Except.toOption]
      rw [kept]
      exact ih.bind (gives_pure _)

theorem gives_addDeclarations (path : String) (declarations : List Declaration)
    (catalog : Catalog) : Gives tree (addDeclarations path declarations catalog)
      (.ok (declarations.foldl (fun catalog declaration => catalog.insert declaration)
        catalog)) := by
  induction declarations generalizing catalog with
  | nil => exact gives_pure _
  | cons declaration declarations ih =>
    rw [addDeclarations]
    by_cases old : (Ordered.find? declaration.name catalog.entries).isSome
    · simp only [old, if_true]
      exact (gives_warn _).bind (ih _)
    · simp only [old]
      exact ih _

/-- A run inserts the declarations of its manifests one after the other. -/
theorem gives_addManifests (manifests : List (String × Manifest)) :
    Gives tree (addManifests manifests .empty)
      (.ok (Catalog.ofDeclarations (manifests.flatMap (·.2.types)))) := by
  rw [Catalog.ofDeclarations]
  generalize Catalog.empty = catalog
  induction manifests generalizing catalog with
  | nil => exact gives_pure _
  | cons manifest manifests ih =>
    rw [addManifests, List.flatMap_cons, List.foldl_append]
    exact (gives_addDeclarations _ _ _).bind (ih _)

theorem gives_readDocumentation (tree : FileTree) (paths : List String) (docs : DocIndex) :
    Gives tree (readDocumentation paths docs) (.ok (documentation tree paths docs)) := by
  induction paths generalizing docs with
  | nil => exact gives_pure _
  | cons path paths ih =>
    rw [readDocumentation]
    refine gives_currentFiles.bind ?_
    cases read : (tree.text? path).bind DocIndex.ofXml? with
    | none =>
      have leftOut : documentation tree (path :: paths) docs = documentation tree paths docs := by
        simp [documentation, read]
      rw [leftOut]
      exact (gives_warn _).bind (ih docs)
    | some found =>
      have kept : documentation tree (path :: paths) docs =
          documentation tree paths (docs.merge found) := by
        simp [documentation, read]
      rw [kept]
      exact ih (docs.merge found)

theorem gives_chooseConvention {catalog : Catalog} {convention : Convention}
    (only : request.conventions catalog = [convention]) :
    Gives tree (chooseConvention request catalog) (.ok convention) := by
  rw [chooseConvention]
  unfold Request.conventions at only
  cases asked : request.convention with
  | some wanted =>
    rw [asked] at only
    cases only
    exact (gives_inform _).bind (gives_pure _)
  | none =>
    rw [asked] at only
    simp only [show Convention.detect catalog = [convention] from only]
    exact (gives_inform _).bind (gives_pure _)

theorem gives_chooseConvention_noConvention {catalog : Catalog}
    (none : request.conventions catalog = []) :
    Gives tree (chooseConvention request catalog) (.error .noConvention) := by
  rw [chooseConvention]
  unfold Request.conventions at none
  cases asked : request.convention with
  | some wanted =>
    rw [asked] at none
    cases none
  | none =>
    rw [asked] at none
    simp only [show Convention.detect catalog = [] from none]
    exact (gives_inform _).bind (gives_throw _)

theorem gives_chooseConvention_severalConventions {catalog : Catalog}
    {first second : Convention} {others : List Convention}
    (several : request.conventions catalog = first :: second :: others) :
    Gives tree (chooseConvention request catalog)
      (.error (.severalConventions (first :: second :: others))) := by
  rw [chooseConvention]
  unfold Request.conventions at several
  cases asked : request.convention with
  | some wanted =>
    rw [asked] at several
    cases several
  | none =>
    rw [asked] at several
    simp only [show Convention.detect catalog = first :: second :: others from several]
    exact (gives_inform _).bind (gives_throw _)

theorem gives_readControllers (server : Server) :
    Gives tree (readControllers server) (.ok (Survey.ofServer server).model) := by
  rw [readControllers]
  exact (gives_inform _).bind ((gives_forM_warn _ _).bind ((gives_inform _).bind (gives_pure _)))

theorem gives_checkModel (valid : model.validate = .ok ())
    (apart : (request.isStrict && !model.nameClashes.isEmpty) = false) :
    Gives tree (checkModel request model) (.ok ()) := by
  rw [checkModel]
  simp only [valid, apart, Bool.false_eq_true, if_false]
  split
  · exact (gives_warn _).bind ((gives_forM_warn _ _).bind (gives_pure _))
  · exact (gives_forM_warn _ _).bind (gives_pure _)

theorem gives_checkModel_invalid {failure : Failure} (invalid : model.validate = .error failure) :
    Gives tree (checkModel request model) (.error (.model failure)) := by
  rw [checkModel]
  simp only [invalid]
  exact (gives_throw _).bind_error

theorem gives_checkModel_nameClashes (valid : model.validate = .ok ())
    (clashing : (request.isStrict && !model.nameClashes.isEmpty) = true) :
    Gives tree (checkModel request model) (.error (.nameClashes model.nameClashes.length)) := by
  rw [checkModel]
  simp only [valid, clashing, if_true]
  split
  · exact (gives_warn _).bind ((gives_forM_warn _ _).bind (gives_throw _))
  · exact (gives_forM_warn _ _).bind (gives_throw _)

theorem gives_emit (written : (request.options.client model).failure = none) :
    Gives tree (emit request model) (.ok (request.options.client model).modules) := by
  rw [emit]
  refine (gives_inform _).bind ?_
  simp only [written]
  exact gives_pure _

theorem gives_emit_gap {failure : Failure}
    (gap : (request.options.client model).failure = some failure) :
    Gives tree (emit request model) (.error (.model failure)) := by
  rw [emit]
  refine (gives_inform _).bind ?_
  simp only [gap]
  exact gives_throw _

end Steps

end ClientGen.Command

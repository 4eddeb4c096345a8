import ClientGen.Proofs.Command.Steps

/-!
# Runs that fail

Up to the first file that is written, every step of a run either gives something to the next one or
stands in the way of the whole run, and leaves the files as they are. The reasons for which a run
can fail before it writes are listed here with exactly the inputs that have them. The steps behind
only write: if one of them fails, the files before it in their order have been written.
-/

namespace ClientGen.Command

/-! ### What a run comes to -/

/-- The catalog of what is found. -/
def catalogOf (tree : FileTree) (found : Files.Scan) : Catalog :=
  Catalog.ofDeclarations ((readable tree found.manifests).flatMap (·.2.types))

/-- What is read of what is found. -/
def inputOf (tree : FileTree) (found : Files.Scan) : Input where
  manifestCount := (readable tree found.manifests).length
  catalog := catalogOf tree found
  docs := documentation tree found.documentation {}

/-- The model of what is found. -/
def modelOf (tree : FileTree) (found : Files.Scan) (convention : Convention) :
    ServiceModel ClassId :=
  (Survey.ofServer
    { catalog := catalogOf tree found
      docs := documentation tree found.documentation {}
      convention }).model

/-- Whether a run finds these files, and some manifest among them that can be read. -/
structure Finds (request : Request) (tree : FileTree) (found : Files.Scan) : Prop where
  accepted : request.IsAccepted tree
  scanned : Files.scan? tree request.input = some found
  given : found.manifests ≠ []
  readable : readable tree found.manifests ≠ []

/-- Whether a run comes to this model. -/
def Models (request : Request) (tree : FileTree) (model : ServiceModel ClassId) : Prop :=
  ∃ found convention, Finds request tree found ∧
    request.conventions (catalogOf tree found) = [convention] ∧
    modelOf tree found convention = model

/-- Whether a run comes to this model and can write the client for it. -/
structure Plans (request : Request) (tree : FileTree) (model : ServiceModel ClassId) : Prop where
  models : Models request tree model
  valid : model.validate = .ok ()
  apart : (request.isStrict && !model.nameClashes.isEmpty) = false
  written : (request.options.client model).failure = none

/-- The files for the modules of a client. -/
def moduleFiles (request : Request) (modules : List (String × String)) : List (String × String) :=
  modules.map fun emitted => (modulePath request emitted.1, emitted.2)

/-- The file for the model, if it was asked for. -/
def dumpFile (request : Request) (model : ServiceModel ClassId) : List (String × String) :=
  request.dump.toList.map fun format => (dumpPath request format, format.serialize model)

/-- The files that a run writes for a model: the modules of the client, and then the model itself if
it was asked for. -/
def filesFor (request : Request) (model : ServiceModel ClassId) : List (String × String) :=
  moduleFiles request (request.options.client model).modules ++ dumpFile request model

/-- What stands in the way of a run before it writes anything. -/
inductive Hindered (request : Request) (tree : FileTree) : RunFailure → Prop
  | noInput (missing : tree.at? request.input = none) :
      Hindered request tree (.noInput request.input)
  | outputIsFile (input : (tree.at? request.input).isNone = false)
      (isFile : (tree.at? request.output).any FileTree.isFile = true) :
      Hindered request tree (.outputIsFile request.output)
  | noHelpersModule (input : (tree.at? request.input).isNone = false)
      (output : (tree.at? request.output).any FileTree.isFile = false)
      (blank : (Text.trim request.options.helpersModule).isEmpty = true) :
      Hindered request tree .noHelpersModule
  | noValidationModule (input : (tree.at? request.input).isNone = false)
      (output : (tree.at? request.output).any FileTree.isFile = false)
      (helpers : (Text.trim request.options.helpersModule).isEmpty = false)
      (isObservable : request.options.observable = true)
      (blank : (Text.trim request.options.validationModule).isEmpty = true) :
      Hindered request tree .noValidationModule
  | noManifests {found : Files.Scan} (accepted : request.IsAccepted tree)
      (scanned : Files.scan? tree request.input = some found) (none : found.manifests = []) :
      Hindered request tree (.noManifests request.input)
  | noReadableManifest {found : Files.Scan} (accepted : request.IsAccepted tree)
      (scanned : Files.scan? tree request.input = some found) (given : found.manifests ≠ [])
      (none : readable tree found.manifests = []) : Hindered request tree .noReadableManifest
  | noConvention {found : Files.Scan} (finds : Finds request tree found)
      (none : request.conventions (catalogOf tree found) = []) :
      Hindered request tree .noConvention
  | severalConventions {found : Files.Scan} (finds : Finds request tree found)
      {first second : Convention} {others : List Convention}
      (several : request.conventions (catalogOf tree found) = first :: second :: others) :
      Hindered request tree (.severalConventions (first :: second :: others))
  | invalid {model : ServiceModel ClassId} {failure : Failure} (models : Models request tree model)
      (invalid : model.validate = .error failure) : Hindered request tree (.model failure)
  | nameClashes {model : ServiceModel ClassId} (models : Models request tree model)
      (valid : model.validate = .ok ()) (isStrict : request.isStrict = true)
      (clashes : model.nameClashes ≠ []) :
      Hindered request tree (.nameClashes model.nameClashes.length)
  | unwritten {model : ServiceModel ClassId} {failure : Failure} (models : Models request tree model)
      (valid : model.validate = .ok ())
      (apart : (request.isStrict && !model.nameClashes.isEmpty) = false)
      (gap : (request.options.client model).failure = some failure) :
      Hindered request tree (.model failure)

/-! ### Preparing a run -/

section Preparing

variable {request : Request} {tree : FileTree} {found : Files.Scan} {model : ServiceModel ClassId}
  {failure : RunFailure}

theorem gives_readInput (finds : Finds request tree found) :
    Gives tree (readInput request) (.ok (inputOf tree found)) := by
  rw [readInput]
  refine (gives_scan finds.scanned finds.given).bind ((gives_inform _).bind ?_)
  refine (gives_readManifests _ _).bind ?_
  simp only [List.isEmpty_eq_false_iff.mpr finds.readable, Bool.false_eq_true, if_false]
  refine (gives_addManifests _).bind ((gives_inform _).bind ?_)
  exact (gives_readDocumentation _ _ _).bind (gives_pure _)

theorem gives_buildModel (models : Models request tree model) (valid : model.validate = .ok ())
    (apart : (request.isStrict && !model.nameClashes.isEmpty) = false) :
    ∃ found, Finds request tree found ∧
      Gives tree (buildModel request (inputOf tree found)) (.ok model) := by
  rcases models with ⟨found, convention, finds, only, rfl⟩
  refine ⟨found, finds, ?_⟩
  rw [buildModel]
  refine (gives_chooseConvention only).bind ((gives_readControllers _).bind ?_)
  exact (gives_checkModel valid apart).bind (gives_pure _)

/-- A model that does not pass the checks ends the run in which it is built. -/
theorem gives_buildModel_of_checkModel (models : Models request tree model)
    (refused : Gives tree (checkModel request model) (.error failure)) :
    ∃ found, Finds request tree found ∧
      Gives tree (buildModel request (inputOf tree found)) (.error failure) := by
  rcases models with ⟨found, convention, finds, only, rfl⟩
  refine ⟨found, finds, ?_⟩
  rw [buildModel]
  refine (gives_chooseConvention only).bind ((gives_readControllers _).bind ?_)
  exact refused.bind_error

theorem gives_prepare_of_readInput (accepted : request.IsAccepted tree)
    (refused : Gives tree (readInput request) (.error failure)) :
    Gives tree (prepare request) (.error failure) := by
  rw [prepare]
  exact (gives_check accepted).bind ((gives_inform _).bind refused.bind_error)

theorem gives_prepare_of_buildModel (finds : Finds request tree found)
    (refused : Gives tree (buildModel request (inputOf tree found)) (.error failure)) :
    Gives tree (prepare request) (.error failure) := by
  rw [prepare]
  refine (gives_check finds.accepted).bind ((gives_inform _).bind ?_)
  exact (gives_readInput finds).bind refused.bind_error

/-- What stands in the way of a run ends it. -/
theorem gives_prepare_of_hindered (hindered : Hindered request tree failure) :
    Gives tree (prepare request) (.error failure) := by
  have atCheck {failure : RunFailure} (refused : Gives tree (check request) (.error failure)) :
      Gives tree (prepare request) (.error failure) := by
    rw [prepare]
    exact refused.bind_error
  cases hindered with
  | noInput missing => exact atCheck (gives_check_noInput missing)
  | outputIsFile input isFile => exact atCheck (gives_check_outputIsFile input isFile)
  | noHelpersModule input output blank =>
    exact atCheck (gives_check_noHelpersModule input output blank)
  | noValidationModule input output helpers isObservable blank =>
    refine atCheck (gives_check_noValidationModule input output helpers ?_)
    rw [isObservable, blank, Bool.and_self]
  | noManifests accepted scanned none =>
    apply gives_prepare_of_readInput accepted
    rw [readInput]
    exact (gives_scan_noManifests scanned none).bind_error
  | noReadableManifest accepted scanned given none =>
    apply gives_prepare_of_readInput accepted
    rw [readInput]
    refine (gives_scan scanned given).bind ((gives_inform _).bind ?_)
    refine (gives_readManifests _ _).bind ?_
    simp only [none, List.isEmpty_nil, if_true]
    exact (gives_throw _).bind_error
  | noConvention finds none =>
    apply gives_prepare_of_buildModel finds
    rw [buildModel]
    exact (gives_chooseConvention_noConvention none).bind_error
  | severalConventions finds several =>
    apply gives_prepare_of_buildModel finds
    rw [buildModel]
    exact (gives_chooseConvention_severalConventions several).bind_error
  | invalid models invalid =>
    rcases gives_buildModel_of_checkModel models (gives_checkModel_invalid invalid) with
      ⟨found, finds, refused⟩
    exact gives_prepare_of_buildModel finds refused
  | nameClashes models valid isStrict clashes =>
    rcases gives_buildModel_of_checkModel models (gives_checkModel_nameClashes valid
      (by simp [isStrict, clashes])) with ⟨found, finds, refused⟩
    exact gives_prepare_of_buildModel finds refused
  | unwritten models valid apart gap =>
    rcases gives_buildModel models valid apart with ⟨found, finds, built⟩
    rw [prepare]
    refine (gives_check finds.accepted).bind ((gives_inform _).bind ?_)
    refine (gives_readInput finds).bind (built.bind ?_)
    exact (gives_emit_gap gap).bind_error

/-- A run that can write a client comes to its modules. -/
theorem gives_prepare_of_plans (plans : Plans request tree model) :
    ∃ manifestCount, Gives tree (prepare request)
      (.ok { manifestCount, model, modules := (request.options.client model).modules }) := by
  rcases gives_buildModel plans.models plans.valid plans.apart with ⟨found, finds, built⟩
  refine ⟨(inputOf tree found).manifestCount, ?_⟩
  rw [prepare]
  refine (gives_check finds.accepted).bind ((gives_inform _).bind ?_)
  refine (gives_readInput finds).bind (built.bind ?_)
  exact (gives_emit plans.written).bind ((gives_inform _).bind (gives_pure _))

theorem exists_scan {path : String} (input : (tree.at? path).isNone = false) :
    ∃ found, Files.scan? tree path = some found := by
  cases stored : tree.at? path with
  | none =>
    rw [stored] at input
    cases input
  | some root =>
    rw [Files.scan?, stored]
    exact ⟨_, rfl⟩

/-- Nothing else stands in the way of a run. -/
theorem hindered_or_plans (request : Request) (tree : FileTree) :
    (∃ failure, Hindered request tree failure) ∨ ∃ model, Plans request tree model := by
  by_cases accepted : request.IsAccepted tree
  · rcases exists_scan accepted.input with ⟨found, scanned⟩
    by_cases given : found.manifests = []
    · exact .inl ⟨_, .noManifests accepted scanned given⟩
    by_cases isReadable : readable tree found.manifests = []
    · exact .inl ⟨_, .noReadableManifest accepted scanned given isReadable⟩
    have finds : Finds request tree found := ⟨accepted, scanned, given, isReadable⟩
    cases conventions : request.conventions (catalogOf tree found) with
    | nil => exact .inl ⟨_, .noConvention finds conventions⟩
    | cons convention others =>
      cases others with
      | cons second others => exact .inl ⟨_, .severalConventions finds conventions⟩
      | nil =>
        have models : Models request tree (modelOf tree found convention) :=
          ⟨found, convention, finds, conventions, rfl⟩
        cases valid : (modelOf tree found convention).validate with
        | error failure => exact .inl ⟨_, .invalid models valid⟩
        | ok _ =>
          by_cases apart : (request.isStrict &&
              !(modelOf tree found convention).nameClashes.isEmpty) = true
          · rw [Bool.and_eq_true, Bool.not_eq_true', List.isEmpty_eq_false_iff] at apart
            exact .inl ⟨_, .nameClashes models valid apart.1 apart.2⟩
          rw [Bool.not_eq_true] at apart
          cases written : (request.options.client (modelOf tree found convention)).failure with
          | some failure => exact .inl ⟨_, .unwritten models valid apart written⟩
          | none => exact .inr ⟨_, models, valid, apart, written⟩
  · -- The checks of a request are made in this order, and the first one that fails counts.
    by_cases input : tree.at? request.input = none
    · exact .inl ⟨_, .noInput input⟩
    have given : (tree.at? request.input).isNone = false := by
      rw [Option.isNone_eq_false_iff, Option.isSome_iff_ne_none]
      exact input
    cases output : (tree.at? request.output).any FileTree.isFile with
    | true => exact .inl ⟨_, .outputIsFile given output⟩
    | false =>
      cases helpers : (Text.trim request.options.helpersModule).isEmpty with
      | true => exact .inl ⟨_, .noHelpersModule given output helpers⟩
      | false =>
        cases validation : request.options.observable &&
            (Text.trim request.options.validationModule).isEmpty with
        | true =>
          rw [Bool.and_eq_true] at validation
          exact .inl ⟨_, .noValidationModule given output helpers validation.1 validation.2⟩
        | false => exact (accepted ⟨given, output, helpers, validation⟩).elim

theorem not_isOfWriting_of_hindered (hindered : Hindered request tree failure) :
    failure.isOfWriting = false := by
  cases hindered <;> rfl

end Preparing

/-! ### Writing -/

section Writing

variable {α β : Type} {step : Step α} {next : α → Step β} {value : α} {last : β}
  {writes others : List (String × String)} {tree : FileTree} {request : Request}

/-- Files after others have been written one after the other. -/
def writeAll (writes : List (String × String)) (tree : FileTree) : Except WriteFailure FileTree :=
  writes.foldlM (fun tree file => tree.write file.1 file.2) tree

/-- What a step that writes files one after the other comes to: either it has written all of them,
or one of them cannot be written; then it has written those before, and the failure says which one
it is. -/
inductive Written (step : Step α) (value : α) (writes : List (String × String)) (state : State) :
    Prop
  | all {files told} (wrote : writeAll writes state.files = .ok files)
      (run : step.run.run state = (.ok value, { files, log := told }))
  | upTo {written path text others cause files told}
      (split : writes = written ++ (path, text) :: others)
      (wrote : writeAll written state.files = .ok files)
      (refused : files.write path text = .error cause)
      (run : step.run.run state = (.error (.ofWriting path cause), { files, log := told }))

/-- Whether a step writes files one after the other, up to the first one that cannot be written. -/
def Writes (step : Step α) (value : α) (writes : List (String × String)) : Prop :=
  ∀ state, Written step value writes state

theorem writes_pure (value : α) : Writes (pure value) value [] :=
  fun _ => .all rfl rfl

theorem writes_inform (text : String) : Writes (inform text) () [] :=
  fun _ => .all rfl rfl

theorem writes_writeFile (path text : String) :
    Writes (writeFile path text) () [(path, text)] := by
  intro state
  have current : (currentFiles : Step FileTree).run.run state = pure (.ok state.files, state) := rfl
  cases wrote : state.files.write path text with
  | ok files =>
    have run : (writeFile path text).run.run state = (.ok (), { state with files }) := by
      rw [writeFile, ExceptT.run_bind, StateT.run_bind, current, pure_bind]
      dsimp only
      rw [wrote]
      rfl
    refine .all ?_ run
    simp [writeAll, wrote]
  | error cause =>
    have run : (writeFile path text).run.run state = (.error (.ofWriting path cause), state) := by
      rw [writeFile, ExceptT.run_bind, StateT.run_bind, current, pure_bind]
      dsimp only
      rw [wrote]
      rfl
    exact .upTo (List.nil_append [(path, text)]).symm rfl wrote run

theorem writeAll_append {files : FileTree} (wrote : writeAll writes tree = .ok files) :
    writeAll (writes ++ others) tree = writeAll others files := by
  rw [writeAll, List.foldlM_append, ← writeAll, wrote]
  rfl

theorem Gives.written (given : Gives tree step (.ok value)) (log : List LogLine) :
    Written step value [] { files := tree, log } := by
  obtain ⟨told, run⟩ := given log
  exact .all rfl run

theorem Written.bind {state : State} (first : Written step value writes state)
    (second : Writes (next value) last others) :
    Written (step >>= next) last (writes ++ others) state := by
  cases first with
  | @all files told wrote done =>
    have run : (step >>= next).run.run state = (next value).run.run { files, log := told } := by
      rw [ExceptT.run_bind, StateT.run_bind, done]
      rfl
    rcases second { files, log := told } with
      ⟨wroteToo, doneToo⟩ | ⟨split, wroteToo, refused, failed⟩
    · exact .all ((writeAll_append wrote).trans wroteToo) (run.trans doneToo)
    · subst split
      exact .upTo (List.append_assoc _ _ _).symm ((writeAll_append wrote).trans wroteToo) refused
        (run.trans failed)
  | @upTo _ path _ _ cause files told split wrote refused failed =>
    have run : (step >>= next).run.run state =
        (.error (.ofWriting path cause), { files, log := told }) := by
      rw [ExceptT.run_bind, StateT.run_bind, failed]
      rfl
    subst split
    exact .upTo (List.append_assoc _ _ _) wrote refused run

theorem Writes.bind (first : Writes step value writes) (second : Writes (next value) last others) :
    Writes (step >>= next) last (writes ++ others) :=
  fun state => (first state).bind second

theorem writes_forM_inform (lines : List String) : Writes (lines.forM inform) () [] := by
  induction lines with
  | nil => exact writes_pure ()
  | cons line lines ih => exact (writes_inform line).bind ih

theorem writes_writeModules (modules : List (String × String)) :
    Writes (writeModules request modules) () (moduleFiles request modules) := by
  induction modules with
  | nil => exact writes_pure ()
  | cons first others ih => exact (writes_writeFile _ _).bind ih

theorem writes_writeDump (model : ServiceModel ClassId) :
    Writes (writeDump request model) () (dumpFile request model) := by
  rw [writeDump, dumpFile]
  cases request.dump with
  | none => exact writes_pure ()
  | some format => exact (writes_writeFile _ _).bind (writes_inform _)

end Writing

/-! ### Results -/

theorem isOfWriting_ofWriting (path : String) (cause : WriteFailure) :
    (RunFailure.ofWriting path cause).isOfWriting = true := by
  cases cause <;> rfl

section Results

variable {request : Request} {tree : FileTree} {failure : RunFailure} {prepared : Prepared}

theorem run_of_error {state : State}
    (ended : (answer request).run.run { files := tree } = (.error failure, state)) :
    (run request tree).failure = some failure ∧ (run request tree).files = state.files := by
  rw [run, show (answer request).run { files := tree } = _ from ended]
  exact ⟨rfl, rfl⟩

theorem failure_of_done {state : State}
    (done : (answer request).run.run { files := tree } = (.ok (), state)) :
    (run request tree).failure = none := by
  rw [run, show (answer request).run { files := tree } = _ from done]

theorem run_of_gives_error (refused : Gives tree (prepare request) (.error failure)) :
    (run request tree).failure = some failure ∧ (run request tree).files = tree := by
  have ended : Gives tree (answer request) (.error failure) := by
    rw [answer]
    exact refused.bind_error
  obtain ⟨told, answered⟩ := ended []
  exact run_of_error answered

/-- Behind its preparation a run only writes its files, and tells about it. -/
theorem written_of_plans {model : ServiceModel ClassId} (plans : Plans request tree model) :
    Written (answer request) () (filesFor request model) { files := tree } := by
  rcases gives_prepare_of_plans plans with ⟨manifestCount, prepared⟩
  rw [answer, filesFor, ← List.append_nil (dumpFile request model)]
  apply (prepared.written []).bind
  exact (writes_writeModules _).bind ((writes_writeDump model).bind (writes_forM_inform _))

/-- A run fails for what stands in its way. -/
theorem failure_eq_some_iff_hindered (early : failure.isOfWriting = false) :
    (run request tree).failure = some failure ↔ Hindered request tree failure := by
  constructor
  · intro failed
    rcases hindered_or_plans request tree with ⟨other, hindered⟩ | ⟨model, plans⟩
    · have isOther := (run_of_gives_error (gives_prepare_of_hindered hindered)).1
      cases failed.symm.trans isOther
      exact hindered
    · rcases written_of_plans plans with ⟨-, done⟩ | ⟨-, -, -, ended⟩
      · cases failed.symm.trans (failure_of_done done)
      · cases failed.symm.trans (run_of_error ended).1
        rw [isOfWriting_ofWriting] at early
        cases early
  · intro hindered
    exact (run_of_gives_error (gives_prepare_of_hindered hindered)).1

/-- What a run fails for, unless it fails to write a file, is what stands in its way before it writes
anything; and then no file or directory is changed or created. If it fails to write a file, nothing
stood in its way: it has come to a model and to a client, and has written the files in front of that
one. -/
theorem files_of_failed_run (request : Request) (tree : FileTree) (failure : RunFailure)
    (failed : (run request tree).failure = some failure) :
    (failure.isOfWriting = false →
      Hindered request tree failure ∧ (run request tree).files = tree) ∧
    (failure.isOfWriting = true →
      ∃ model, Plans request tree model ∧
        ∃ written path text others cause,
          filesFor request model = written ++ (path, text) :: others ∧
          writeAll written tree = .ok (run request tree).files ∧
          (run request tree).files.write path text = .error cause ∧
          failure = .ofWriting path cause) := by
  constructor
  · intro early
    have hindered := (failure_eq_some_iff_hindered early).mp failed
    exact ⟨hindered, (run_of_gives_error (gives_prepare_of_hindered hindered)).2⟩
  · intro late
    rcases hindered_or_plans request tree with ⟨other, hindered⟩ | ⟨model, plans⟩
    · have isOther := (run_of_gives_error (gives_prepare_of_hindered hindered)).1
      cases failed.symm.trans isOther
      rw [not_isOfWriting_of_hindered hindered] at late
      cases late
    · rcases written_of_plans plans with ⟨-, done⟩ | ⟨split, wrote, refused, ended⟩
      · cases failed.symm.trans (failure_of_done done)
      · have sameFiles := (run_of_error ended).2
        cases failed.symm.trans (run_of_error ended).1
        rw [sameFiles]
        exact ⟨model, plans, _, _, _, _, _, split, wrote, refused, rfl⟩

/-- A directory with an empty manifest next to one with a file of an earlier run. -/
def emptyInput : FileTree :=
  .directory
    [("in", .directory [("api.json", .file (some "[]"))]),
      ("out", .directory [("views.ts", .file (some "old"))])]

theorem run_of_empty_input :
    let request : Request := { input := "in", output := "out" }
    (run request emptyInput).failure = some .noConvention ∧
      Hindered request emptyInput .noConvention ∧ (run request emptyInput).files = emptyInput := by
  intro request
  have failed : (run request emptyInput).failure = some .noConvention := by decide +kernel
  exact ⟨failed, (files_of_failed_run request emptyInput .noConvention failed).1 rfl⟩

end Results

end ClientGen.Command

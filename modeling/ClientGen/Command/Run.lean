import ClientGen.Command.Report
import ClientGen.Convention.Detect
import ClientGen.Discovery.Survey
import ClientGen.Documentation.Read
import ClientGen.Files.Manifests
import ClientGen.Files.Scan
import ClientGen.Json.Write
import ClientGen.Model.Validate
import ClientGen.Model.Write
import ClientGen.TypeScript.Client
import ClientGen.Yaml.Write

/-!
# Runs

A run answers a request step by step. Every step works on the files and on the log, and the first
step that fails ends the run. The steps that read the input and emit the client come first, then the
modules are written, and then the model, if it was asked for.
-/

namespace ClientGen.Command

/-- What the steps of a run work on. -/
structure State where
  files : FileTree
  /-- What has been told so far. -/
  log : List LogLine := []

/-- A step of a run. It may fail, and then leaves what it has done so far. -/
abbrev Step := ExceptT RunFailure (StateM State)

/-- Tells what happens. -/
def inform (text : String) : Step Unit :=
  modify fun state => { state with log := state.log ++ [⟨.info, text⟩] }

/-- Tells what may be wrong. -/
def warn (text : String) : Step Unit :=
  modify fun state => { state with log := state.log ++ [⟨.warning, text⟩] }

/-- The files as they are. -/
def currentFiles : Step FileTree :=
  return (← get).files

/-- Checks a request, and tells what was asked for. -/
def check (request : Request) : Step Unit := do
  let tree ← currentFiles
  if (tree.at? request.input).isNone then throw (.noInput request.input)
  if (tree.at? request.output).any FileTree.isFile then throw (.outputIsFile request.output)
  let options := request.options
  if (Text.trim options.helpersModule).isEmpty then throw .noHelpersModule
  if options.observable && (Text.trim options.validationModule).isEmpty then
    throw .noValidationModule
  inform ("Input path: " ++ request.input)
  inform ("Output directory: " ++ request.output)
  inform ("Convention: " ++ (request.convention.map Convention.label).getD "auto-detect")
  inform ("Layout: " ++ options.bundling.label ++ ", parameters: " ++ options.passing.label)

/-- Looks for the input files. -/
def scan (request : Request) : Step Files.Scan := do
  inform "Scanning input..."
  match Files.scan? (← currentFiles) request.input with
  | none => throw (.noInput request.input)
  | some found =>
    inform ("Found " ++ toString found.manifests.length ++ " manifests, " ++
      toString found.documentation.length ++ " documentation files")
    if found.manifests.isEmpty then throw (.noManifests request.input)
    return found

/-- Reads manifests with their paths; those that cannot be read are told and left out. -/
def readManifests : List String → Step (List (String × Manifest))
  | [] => return []
  | path :: paths => do
    match Files.readManifest (← currentFiles) path with
    | .ok manifest =>
      let others ← readManifests paths
      return (path, manifest) :: others
    | .error failure =>
      warn ("Failed to parse " ++ path ++ ": " ++ failure.message)
      readManifests paths

/-- Adds the declarations of a manifest to a catalog. -/
def addDeclarations (path : String) : List Declaration → Catalog → Step Catalog
  | [], catalog => return catalog
  | declaration :: others, catalog => do
    if (Ordered.find? declaration.name catalog.entries).isSome then
      warn ("Type " ++ declaration.name ++ " redefined by " ++ path ++
        ", keeping the last definition")
    addDeclarations path others (catalog.insert declaration)

/-- Adds the declarations of some manifests to a catalog. -/
def addManifests : List (String × Manifest) → Catalog → Step Catalog
  | [], catalog => return catalog
  | (path, manifest) :: others, catalog => do
    addManifests others (← addDeclarations path manifest.types catalog)

/-- Reads documentation; files that cannot be read are told and left out. -/
def readDocumentation : List String → DocIndex → Step DocIndex
  | [], docs => return docs
  | path :: paths, docs => do
    match ((← currentFiles).text? path).bind DocIndex.ofXml? with
    | some found => readDocumentation paths (docs.merge found)
    | none =>
      warn ("Skipping documentation file " ++ path ++ ": it cannot be read")
      readDocumentation paths docs

/-- What has been read of a server. -/
structure Input where
  manifestCount : Nat
  catalog : Catalog
  docs : DocIndex

/-- Reads the input files. -/
def readInput (request : Request) : Step Input := do
  let found ← scan request
  inform "Parsing manifests..."
  let manifests ← readManifests found.manifests
  if manifests.isEmpty then throw .noReadableManifest
  let catalog ← addManifests manifests .empty
  inform ("Loaded " ++ toString catalog.entries.length ++ " type definitions")
  let docs ← readDocumentation found.documentation {}
  return { manifestCount := manifests.length, catalog, docs }

/-- The convention that was asked for, or the one that is found out. -/
def chooseConvention (request : Request) (catalog : Catalog) : Step Convention := do
  match request.convention with
  | some convention =>
    inform ("Using user-specified convention: " ++ convention.label)
    return convention
  | none =>
    inform "Detecting controller convention..."
    match Convention.detect catalog with
    | [] => throw .noConvention
    | [convention] => return convention
    | conventions => throw (.severalConventions conventions)

/-- Reads the controllers of a server into a model. -/
def readControllers (server : Server) : Step (ServiceModel ClassId) := do
  inform ("Reading controllers with the " ++ server.convention.name ++ " convention...")
  let survey := Survey.ofServer server
  survey.discovery.notices.forM fun notice => warn notice.message
  let model := survey.model
  inform ("Read " ++ toString model.controllers.length ++ " controllers (" ++
    toString (Survey.candidates server).length ++ " candidates), " ++
    toString model.types.size ++ " types")
  return model

/-- Checks a model, and tells what is odd about it. -/
def checkModel (request : Request) (model : ServiceModel ClassId) : Step Unit := do
  match model.validate with
  | .error failure => throw (.model failure)
  | .ok () => pure ()
  if model.controllers.isEmpty then warn "No controllers with actions found"
  model.nameClashes.forM fun clash =>
    warn ("Types " ++ clash.first ++ " and " ++ clash.second ++ " share the name " ++ clash.name)
  if request.isStrict && !model.nameClashes.isEmpty then
    throw (.nameClashes model.nameClashes.length)

/-- Reads a server into a model, and checks the model. -/
def buildModel (request : Request) (input : Input) : Step (ServiceModel ClassId) := do
  let convention ← chooseConvention request input.catalog
  let model ← readControllers { catalog := input.catalog, docs := input.docs, convention }
  checkModel request model
  return model

/-- Emits the modules of the client for a model. -/
def emit (request : Request) (model : ServiceModel ClassId) : Step (List (String × String)) := do
  inform "Emitting TypeScript..."
  let client := request.options.client model
  match client.failure with
  | some failure => throw (.model failure)
  | none => return client.modules

/-- What a run has come to before it writes. -/
structure Prepared where
  manifestCount : Nat
  model : ServiceModel ClassId
  /-- The modules of the client with their texts. -/
  modules : List (String × String)

/-- Reads all input of a run and emits the client. -/
def prepare (request : Request) : Step Prepared := do
  check request
  inform "Starting TypeScript service generation..."
  let input ← readInput request
  let model ← buildModel request input
  let modules ← emit request model
  inform ("Writing modules to: " ++ request.output)
  return { manifestCount := input.manifestCount, model, modules }

/-- The failure of a run that could not write a file. -/
def RunFailure.ofWriting (path : String) : WriteFailure → RunFailure
  | .directory => .directory (Files.Path.directory path)
  | .file => .file path

/-- Writes a file. -/
def writeFile (path text : String) : Step Unit := do
  match (← currentFiles).write path text with
  | .ok files => modify fun state => { state with files }
  | .error failure => throw (.ofWriting path failure)

/-- The path of a module. -/
def modulePath (request : Request) (name : String) : String :=
  Files.Path.join request.output (name ++ ".ts")

/-- Writes modules one after the other. -/
def writeModules (request : Request) : List (String × String) → Step Unit
  | [] => return ()
  | (name, text) :: others => do
    writeFile (modulePath request name) text
    writeModules request others

/-- The text of a model in a format. -/
def DumpFormat.serialize (model : ServiceModel ClassId) : DumpFormat → String
  | .yaml => Yaml.write model.toTree
  | .json => Json.pretty model.toTree

/-- The path of the file for the model. -/
def dumpPath (request : Request) (format : DumpFormat) : String :=
  Files.Path.join request.output format.fileName

/-- Writes the model, if it was asked for. -/
def writeDump (request : Request) (model : ServiceModel ClassId) : Step Unit := do
  match request.dump with
  | none => return ()
  | some format =>
    let text := format.serialize model
    writeFile (dumpPath request format) text
    inform ("Wrote model to " ++ dumpPath request format)

/-- What is told at the end of a run. -/
def summary (prepared : Prepared) : List String :=
  let model := prepared.model
  let actions := model.controllers.flatMap (·.actions)
  ["Generation complete!", "Summary:",
    "  - Manifests parsed: " ++ toString prepared.manifestCount,
    "  - Controllers: " ++ toString model.controllers.length,
    "  - Actions: " ++ toString actions.length,
    "  - Classes: " ++ toString model.types.size,
    "  - Modules written: " ++ toString prepared.modules.length]

/-- Answers a request. -/
def answer (request : Request) : Step Unit := do
  let prepared ← prepare request
  writeModules request prepared.modules
  writeDump request prepared.model
  (summary prepared).forM inform

/-- What a run did. -/
structure Outcome where
  log : List LogLine
  failure : Option RunFailure
  /-- The files as they are afterwards. -/
  files : FileTree

/-- Answers a request on some files. -/
def run (request : Request) (tree : FileTree) : Outcome :=
  match (answer request).run { files := tree } with
  | (.ok _, state) => { log := state.log, failure := none, files := state.files }
  | (.error failure, state) => { log := state.log, failure := some failure, files := state.files }

end ClientGen.Command

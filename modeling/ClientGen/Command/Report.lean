import ClientGen.Command.Request
import ClientGen.Failure

/-!
# Reports

What a run tells: a log of what it does, and the failure that ended it, if one did.
-/

namespace ClientGen

/-- The name of a convention in reports. -/
def Convention.label : Convention → String
  | .mvc => "Mvc"
  | .webApi => "WebApi"

/-- The name of a way to divide a client in reports. -/
def TypeScript.Bundling.label : TypeScript.Bundling → String
  | .split => "Split"
  | .single => "Single"

/-- The name of a way to pass parameters in reports. -/
def TypeScript.Passing.label : TypeScript.Passing → String
  | .object => "Object"
  | .positional => "Positional"

namespace Command

/-- How much a line of a log matters. -/
inductive Level where
  | info
  | warning
  deriving DecidableEq, Repr

/-- A line of a log. -/
structure LogLine where
  level : Level
  text : String
  deriving DecidableEq, Repr

/-- Why a run ended without a client. -/
inductive RunFailure where
  | noInput (path : String)
  | outputIsFile (path : String)
  | noHelpersModule
  | noValidationModule
  | noManifests (path : String)
  | noReadableManifest
  | noConvention
  | severalConventions (conventions : List Convention)
  /-- The model is not valid or cannot be written as a client. -/
  | model (failure : Failure)
  | nameClashes (count : Nat)
  | directory (path : String)
  | file (path : String)
  deriving DecidableEq, Repr

/-- The wording of a failure. -/
def RunFailure.message : RunFailure → String
  | .noInput path => "Input path does not exist: " ++ path
  | .outputIsFile path => "Output path is a file, expected a directory: " ++ path
  | .noHelpersModule => "The helpers module name cannot be empty"
  | .noValidationModule => "The validation module name cannot be empty"
  | .noManifests path => "No type manifests found in " ++ path
  | .noReadableManifest => "No manifest could be parsed successfully"
  | .noConvention =>
    "No supported controller convention detected. Please specify one using --adapter option.\n" ++
      "Supported conventions: mvc, web-api"
  | .severalConventions conventions =>
    "Several controller conventions detected ([" ++
      ", ".intercalate (conventions.map Convention.label) ++
      "]). Please choose one using --adapter option."
  | .model failure => failure.message
  | .nameClashes count => toString count ++ " class name collisions found and --strict is set"
  | .directory path => "Failed to create directory: " ++ path
  | .file path => "Failed to write to file: " ++ path

/-- Whether a failure is one of writing, when everything else was done. -/
def RunFailure.isOfWriting : RunFailure → Bool
  | .directory _ | .file _ => true
  | _ => false

end Command

end ClientGen

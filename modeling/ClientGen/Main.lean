import ClientGen.Command.Arguments
import ClientGen.Command.Run

/-!
# The program

Reads the arguments and the input files, runs the request and writes the client. The program does
not list directories itself: when the input path is not a file, the paths of the files below it are
read from the standard input, one on each line.
-/

namespace ClientGen.Main

open Command

/-- How the program is used. -/
def usage : String :=
  "Usage: cs-ts-service [OPTIONS] <INPUT_PATH>\n\n" ++
    "  -o, --output DIR         directory of the modules\n" ++
    "  -a, --adapter NAME       mvc or web-api; found out if missing\n" ++
    "      --helpers MODULE     module with the functions of all clients\n" ++
    "      --validation MODULE  module with the validators\n" ++
    "      --layout NAME        split or single\n" ++
    "      --parameter-style NAME  object or positional\n" ++
    "      --observable         also write observable classes\n" ++
    "      --dump-model FORMAT  also write the model as yaml or json\n" ++
    "      --strict             fail when classes have the same name\n" ++
    "  -v, --verbose            tell which files are written\n" ++
    "  -h, --help               show this text\n" ++
    "  -V, --version            show the version\n"

/-- The version of the program. -/
def version : String := "cs-ts-service 0.1.0"

/-- The wording of an error in the arguments. -/
def describe : UsageError → String
  | .invalidValue => "error: an option has no value, or one that it cannot have"
  | .unknownArgument => "error: there is an argument too many, or an unknown one"
  | .missingInput => "error: the input path is missing"
  | .repeatedArgument => "error: an option is given twice"
  | .unexpectedValue => "error: an option has a value that takes none"
  | .help => usage
  | .version => version

/-- Reads the lines of a stream to its end. -/
partial def readLines (stream : IO.FS.Stream) : IO (List String) := do
  let line ← stream.getLine
  if line.isEmpty then return []
  else
    let text := String.ofList (line.toList.filter fun c => c != '\n' && c != '\r')
    return text :: (← readLines stream)

/-- Reads a file, if it can be read. -/
def readFile? (path : String) : IO (Option FileTree) :=
  try
    return some (.file (String.fromUTF8? (← IO.FS.readBinFile path)))
  catch _ => return none

/-- Adds the files at some paths to a tree, as far as they can be read. -/
def addFiles : List String → FileTree → IO FileTree
  | [], tree => return tree
  | path :: paths, tree => do
    match ← readFile? path with
    | some file => addFiles paths (tree.place (Files.Path.parts path) file)
    | none => addFiles paths tree

/-- Reads the files that a request is about. -/
def readTree (request : Request) : IO FileTree := do
  let tree ← addFiles [request.input, request.output] (.directory [])
  if (tree.at? request.input).isSome then return tree
  else addFiles (← readLines (← IO.getStdin)) tree

/-- Writes a file, and the directories above it if they are missing. -/
def writeFile (path text : String) : IO (Option WriteFailure) := do
  let directory := Files.Path.directory path
  try
    unless directory.isEmpty do IO.FS.createDirAll directory
  catch _ => return some .directory
  try
    IO.FS.writeFile path text
    return none
  catch _ => return some .file

/-- Prints the lines of a log. -/
def printLog (log : List LogLine) : IO Unit :=
  log.forM fun line =>
    IO.eprintln ((match line.level with
      | .info => "INFO "
      | .warning => "WARN ") ++ line.text)

/-- Prints a failure. -/
def printFailure (failure : RunFailure) : IO UInt32 := do
  IO.eprintln ("Error: " ++ failure.message)
  return 1

/-- Writes files one after the other, up to the first one that cannot be written. -/
def writeFiles (isVerbose : Bool) : List (String × String) → IO (Option RunFailure)
  | [] => return none
  | (path, text) :: others => do
    if isVerbose then IO.eprintln ("DEBUG Writing " ++ path)
    match ← writeFile path text with
    | some failure => return some (.ofWriting path failure)
    | none => writeFiles isVerbose others

/-- Writes the model, if it was asked for. -/
def writeDump (request : Request) (model : ServiceModel ClassId) : IO (Option RunFailure) := do
  match request.dump with
  | none => return none
  | some format =>
    let path := dumpPath request format
    let failure ← writeFiles request.isVerbose [(path, format.serialize model)]
    if failure.isNone then printLog [⟨.info, "Wrote model to " ++ path⟩]
    return failure

/-- Answers a request. -/
def answer (request : Request) : IO UInt32 := do
  let (result, state) := (prepare request).run { files := ← readTree request }
  printLog state.log
  match result with
  | .error failure => printFailure failure
  | .ok prepared =>
    let modules := prepared.modules.map fun (name, text) => (modulePath request name, text)
    if let some failure ← writeFiles request.isVerbose modules then return ← printFailure failure
    if let some failure ← writeDump request prepared.model then return ← printFailure failure
    printLog ((summary prepared).map (⟨.info, ·⟩))
    return 0

end ClientGen.Main

/-- Runs the program. -/
def main (arguments : List String) : IO UInt32 := do
  match ClientGen.Command.Request.ofArguments arguments with
  | .ok request => ClientGen.Main.answer request
  | .error error =>
    if error = .help ∨ error = .version then
      IO.println (ClientGen.Main.describe error)
      return 0
    else
      IO.eprintln (ClientGen.Main.describe error)
      return 2

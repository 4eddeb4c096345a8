import ClientGen.Files.Tree
import ClientGen.Manifest
import ClientGen.Yaml.Read

/-!
# Manifests in files

A manifest file is in JSON or in YAML, as its extension says. It has to be readable before its
extension matters.
-/

namespace ClientGen.Files

/-- Why a manifest cannot be taken from a file. -/
inductive ManifestFailure where
  | unreadable (path : String)
  | unsupported (path : String)
  | malformed (path : String)
  deriving DecidableEq, Repr

/-- The wording of a failure. -/
def ManifestFailure.message : ManifestFailure → String
  | .unreadable path => "Failed to read file: " ++ path
  | .unsupported path => "Unsupported manifest extension: " ++ path
  | .malformed path => "Failed to parse manifest: " ++ path

/-- Reads the manifest in a text, in the format of an extension; nothing if the extension is of no
format. -/
def parseManifest? (extension text : String) : Option (Option Manifest) :=
  if extension == "json" then some (Json.read Manifest.reader text).toOption
  else if extension == "yaml" || extension == "yml" then some (Yaml.read? Manifest.reader text)
  else none

/-- Reads the manifest at a path. -/
def readManifest (tree : FileTree) (path : String) : Except ManifestFailure Manifest :=
  match tree.text? path with
  | none => .error (.unreadable path)
  | some text =>
    match parseManifest? ((Path.extension? path).getD "") text with
    | none => .error (.unsupported path)
    | some none => .error (.malformed path)
    | some (some manifest) => .ok manifest

end ClientGen.Files

import ClientGen.Files.Tree

/-!
# Looking for input

Manifests and documentation are found by their extensions, in a directory and all those inside it.
Hidden directories and those of build output are left out, but not the one that the search starts
from. The files come in the order of their paths.
-/

namespace ClientGen.Files

/-- What an input file holds. -/
inductive Kind where
  | manifest
  | documentation
  deriving DecidableEq, Repr

/-- The kind of a file by its path. -/
def Kind.ofPath? (path : String) : Option Kind :=
  match Path.extension? path with
  | some "json" | some "yaml" | some "yml" => some .manifest
  | some "xml" => some .documentation
  | _ => none

/-- The directories of build output. -/
def outputDirectories : List String :=
  ["bin", "obj", "node_modules"]

/-- Whether something is not gone into. -/
def isPassedOver (name : String) (tree : FileTree) : Bool :=
  !tree.isFile && (name.toList.head? == some '.' || outputDirectories.contains name)

mutual

/-- The files at a path. -/
def filesIn (path : String) : FileTree → List String
  | .file _ => [path]
  | .directory entries => filesOf path entries

/-- The files among the entries of a directory. -/
def filesOf (path : String) : List (String × FileTree) → List String
  | [] => []
  | (name, child) :: entries =>
    (if isPassedOver name child then [] else filesIn (Path.join path name) child) ++
      filesOf path entries

end

/-- The input files. -/
structure Scan where
  manifests : List String
  documentation : List String

/-- The input files at a path, if there is anything. -/
def scan? (tree : FileTree) (path : String) : Option Scan :=
  (tree.at? path).map fun root =>
    let files := (filesIn path root).mergeSort Path.precedes
    let ofKind := fun kind => files.filter fun file => Kind.ofPath? file == some kind
    ⟨ofKind .manifest, ofKind .documentation⟩

end ClientGen.Files

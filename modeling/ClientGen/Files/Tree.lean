import ClientGen.Files.Path

/-!
# File trees

The files and directories that a run can see, and what becomes of them when it writes. A file has a
text, unless its bytes are none.
-/

namespace ClientGen

/-- A file or a directory. -/
inductive FileTree where
  | file (text : Option String)
  | directory (entries : List (String × FileTree))

/-- What keeps a file from being written. -/
inductive WriteFailure where
  /-- The directory of the file cannot be created. -/
  | directory
  | file
  deriving DecidableEq, Repr

namespace FileTree

/-- Whether this is a file. -/
def isFile : FileTree → Bool
  | .file _ => true
  | .directory _ => false

/-- The entries of a directory; a file has none. -/
def entries : FileTree → List (String × FileTree)
  | .file _ => []
  | .directory entries => entries

/-- Follows the parts of a path; `above` are the directories around, innermost first. -/
def follow (above : List FileTree) : FileTree → List String → Option FileTree
  | tree, [] => some tree
  | .file _, _ :: _ => none
  | .directory entries, part :: parts =>
    if part == ".." then
      match above with
      | parent :: others => follow others parent parts
      | [] => follow [] (.directory entries) parts
    else
      match entries.lookup part with
      | some child => follow (.directory entries :: above) child parts
      | none => none

/-- What is at a path. A path that ends in a slash is that of a directory. -/
def at? (tree : FileTree) (path : String) : Option FileTree :=
  if path.isEmpty then none
  else
    (tree.follow [] (Files.Path.parts path)).filter fun found =>
      !found.isFile || path.toList.getLast? != some '/'

/-- The text of the file at a path. -/
def text? (tree : FileTree) (path : String) : Option String :=
  match tree.at? path with
  | some (.file text) => text
  | _ => none

/-- Resolves the parts of a path that lead to the directory above. -/
def resolveParts (parts : List String) : List String :=
  (parts.foldl (fun resolved part => if part == ".." then resolved.drop 1 else part :: resolved)
    []).reverse

/-- Puts something under a name. -/
def put (name : String) (child : FileTree) : List (String × FileTree) → List (String × FileTree)
  | [] => [(name, child)]
  | entry :: others =>
    if entry.1 == name then (name, child) :: others else entry :: put name child others

/-- Puts something below a directory, whatever is there. -/
def place (tree : FileTree) : (parts : List String) → FileTree → FileTree
  | [], content => content
  | part :: parts, content =>
    let child := (tree.entries.lookup part).getD (.directory [])
    .directory (put part (place child parts content) tree.entries)

/-- Writes a file below a directory, whose parts are followed and created where they are missing. -/
def writeAt (text : String) : (parts : List String) → FileTree → Except WriteFailure FileTree
  | [], _ => .error .file
  | [name], .directory entries =>
    match entries.lookup name with
    | some (.directory _) => .error .file
    | _ => .ok (.directory (put name (.file (some text)) entries))
  | part :: parts, .directory entries => do
    let child ← writeAt text parts ((entries.lookup part).getD (.directory []))
    .ok (.directory (put part child entries))
  | _, .file _ => .error .directory

/-- Writes a file, and the directories above it if they are missing. -/
def write (path text : String) (tree : FileTree) : Except WriteFailure FileTree :=
  writeAt text (resolveParts (Files.Path.parts path)) tree

end FileTree

end ClientGen

import ClientGen.Text.Segment

/-!
# Paths

Paths are texts whose parts are separated by slashes. They are shown as they were given, and
compared and followed part by part; parts of a single point do not count.
-/

namespace ClientGen.Files.Path

/-- The parts of a path. -/
def parts (path : String) : List String :=
  ((Text.splitAt '/' path.toList).map String.ofList).filter fun part =>
    !part.isEmpty && part != "."

/-- The path of something inside a directory. A path that begins with a slash stands for itself. -/
def join (directory name : String) : String :=
  if directory.isEmpty || "/".toList.isPrefixOf name.toList then name
  else if directory.toList.getLast? == some '/' then directory ++ name
  else directory ++ "/" ++ name

/-- The directory of a path, which is empty for a path of one part. -/
def directory (path : String) : String :=
  let trimmed := (path.toList.reverse.dropWhile (· == '/')).dropWhile (· != '/')
  let kept := trimmed.dropWhile (· == '/')
  if kept.isEmpty && !trimmed.isEmpty then "/" else String.ofList kept.reverse

/-- The last part of a path, if it is a name. -/
def fileName? (path : String) : Option String :=
  (parts path).getLast?.filter (· != "..")

/-- What stands behind the last point of the file name, in lower case. A point at the beginning does
not count. -/
def extension? (path : String) : Option String := do
  let name ← fileName? path
  let extension := Text.afterLast '.' name.toList
  guard (extension.length + 1 < name.length)
  some (Text.lowerAscii (String.ofList extension))

/-- Whether some parts do not come after others, where the first parts that differ decide. -/
def partsPrecede : List String → List String → Bool
  | [], _ => true
  | _ :: _, [] => false
  | a :: rest, b :: others => if a == b then partsPrecede rest others else a < b

/-- Whether a path does not come after another one, by their parts. -/
def precedes (a b : String) : Bool :=
  partsPrecede (parts a) (parts b)

end ClientGen.Files.Path

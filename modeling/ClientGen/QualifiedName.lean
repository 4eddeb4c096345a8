import ClientGen.Text.CaseMap
import ClientGen.Text.Segment

/-!
# Qualified names and the names that clients see

On the server a type has a qualified name: namespaces are separated by dots, a nested type follows
its container after a plus sign, and a generic type ends with a backtick and the number of its
parameters. Clients see the last segment without that marker, and without the endings `View`,
`ViewModel` and `Controller` that servers use to say what a type is for.
-/

namespace ClientGen.QualifiedName

/-- The last segment: what follows the last dot and then the last plus sign. -/
def lastSegment (name : String) : String :=
  String.ofList (Text.afterLast '+' (Text.afterLast '.' name.toList))

/-- The name without its arity marker: what stands before the first backtick. -/
def withoutArity (name : String) : String :=
  String.ofList (Text.beforeFirst '\x60' name.toList)

/-- The last segment without its arity marker. -/
def shortName (name : String) : String :=
  withoutArity (lastSegment name)

/-- Drops the first of the endings that leaves something. -/
def dropEndings (endings : List String) (name : String) : String :=
  let stems := endings.filterMap fun ending => Text.dropEnding? ending.toList name.toList
  match stems.find? (!·.isEmpty) with
  | some stem => String.ofList stem
  | none => name

/-- The client's name of a class or an enumeration. A name that is only an ending is kept. -/
def className (name : String) : String :=
  dropEndings ["ViewModel", "View"] (shortName name)

/-- The client's name of a controller. -/
def controllerName (name : String) : String :=
  dropEndings ["Controller"] (shortName name)

/-- Changes the first character by a case mapping, which may lengthen it. -/
def mapFirst (change : Char → List Char) (name : String) : String :=
  match name.toList with
  | [] => ""
  | c :: rest => String.ofList (change c ++ rest)

/-- The name with its first character in lower case. -/
def camelCase (name : String) : String :=
  mapFirst Text.lowerChar name

/-- The name with its first character in upper case. -/
def pascalCase (name : String) : String :=
  mapFirst Text.upperChar name

end ClientGen.QualifiedName

import ClientGen.Collections.Ordered
import ClientGen.Declaration.Basic
import ClientGen.Text.Segment

/-!
# Documentation

The documentation of a server's types is kept under signatures: a letter for the kind of member, a
colon, and the qualified name, in which a dot also separates a nested type from its container. The
signature of a method goes on with the types of its parameters, whose type arguments stand in braces
and whose generic parameters are numbered where the declaring type declares them.
-/

namespace ClientGen

/-- The documentation of a member. -/
structure MemberDoc where
  summary : Option String := none
  /-- The texts for the parameters by name. -/
  parameters : List (String × String) := []
  returns : Option String := none
  deriving DecidableEq, Repr

/-- Documentation by signature. -/
structure DocIndex where
  members : List (String × MemberDoc) := []

namespace DocIndex

/-- Adds the members of another index, which replace members of the same signature. -/
def merge (index other : DocIndex) : DocIndex :=
  ⟨Ordered.insertAll other.members index.members⟩

/-- The documentation of a signature. -/
def find? (signature : String) (index : DocIndex) : Option MemberDoc :=
  Ordered.find? signature index.members

/-- A qualified name as it stands in a signature. -/
def memberPath (name : String) : String :=
  String.ofList (name.toList.map fun c => if c == '+' then '.' else c)

mutual

/-- A type as it stands in a signature. -/
def typeText (genericParameters : List String) : TypeExpr → String
  | .named name [] => memberPath name
  | .named name (arg :: args) =>
    memberPath (QualifiedName.withoutArity name) ++ "\x7b" ++ typeText genericParameters arg ++
      typeTexts genericParameters args ++ "\x7d"
  | .array element => typeText genericParameters element ++ "[]"
  | .parameter name =>
    match genericParameters.findIdx? (· == name) with
    | some index => "\x60" ++ toString index
    | none => "\x60\x60" ++ name
  | .void => "System.Void"

/-- The types after the first, each behind a comma. -/
def typeTexts (genericParameters : List String) : List TypeExpr → String
  | [] => ""
  | type :: types => "," ++ typeText genericParameters type ++ typeTexts genericParameters types

end

/-- The signature of a method. -/
def methodSignature (declaring : Declaration) (method : Method) : String :=
  let name := "M:" ++ memberPath declaring.name ++ "." ++ method.name
  match method.parameters with
  | [] => name
  | parameters =>
    let types := parameters.map fun parameter => typeText declaring.genericParameters parameter.type
    name ++ "(" ++ ",".intercalate types ++ ")"

/-- The summary of a signature. -/
def summary? (signature : String) (index : DocIndex) : Option String :=
  (index.find? signature).bind (·.summary)

/-- The summary of a type. -/
def typeSummary? (name : String) (index : DocIndex) : Option String :=
  index.summary? ("T:" ++ memberPath name)

/-- The summary of a property. -/
def propertySummary? (declaring property : String) (index : DocIndex) : Option String :=
  index.summary? ("P:" ++ memberPath declaring ++ "." ++ property)

/-- The summary of a member of an enumeration. -/
def enumValueSummary? (declaring value : String) (index : DocIndex) : Option String :=
  index.summary? ("F:" ++ memberPath declaring ++ "." ++ value)

/-- The documentation of a method. Without parameters its signature may also end in an empty list
of them. -/
def methodDoc? (declaring : Declaration) (method : Method) (index : DocIndex) :
    Option MemberDoc :=
  let signature := methodSignature declaring method
  match index.find? signature with
  | some doc => some doc
  | none => if method.parameters.isEmpty then index.find? (signature ++ "()") else none

end DocIndex

end ClientGen

import ClientGen.Data.Source

/-!
# Failures

What can keep a run from finishing, and how it is told.
-/

namespace ClientGen

/-- The complaint about a text that is no type expression, without the text. -/
def TypeExpr.ParseError.complaint (error : TypeExpr.ParseError) : String :=
  error.expectation.message ++ " at position " ++ toString error.position

/-- Why a run cannot finish. -/
inductive Failure where
  | io (cause : String)
  | manifest (file message : String)
  | documentation (message : String)
  | typeExpression (expression message : String)
  | argument (message : String)
  | conventionNotDetected
  | serialization (message : String)
  /-- A type is said to be a class, and either names none or one that is not registered. -/
  | missingClass (typeName : String)
  | nameClash (name first second : String)
  deriving DecidableEq, Repr

namespace Failure

/-- The wording of a failure. -/
def message : Failure → String
  | .io cause => "IO error: " ++ cause
  | .manifest file message => "Manifest error in " ++ file ++ ": " ++ message
  | .documentation message => "Documentation error: " ++ message
  | .typeExpression expression message =>
    "Invalid type expression '" ++ expression ++ "': " ++ message
  | .argument message => "Invalid argument: " ++ message
  | .conventionNotDetected => "No supported controller convention detected"
  | .serialization message => "Serialization error: " ++ message
  | .missingClass typeName =>
    "Type node for '" ++ typeName ++ "' is tagged Object/Enum but has no class reference"
  | .nameClash name first second =>
    "Types '" ++ first ++ "' and '" ++ second ++ "' both normalize to '" ++ name ++ "'"

/-- Whether a failure was caused by another one, of the file system. -/
def hasCause : Failure → Bool
  | .io _ => true
  | _ => false

/-- The failure of a text that is no type expression. -/
def ofParseError (error : TypeExpr.ParseError) : Failure :=
  .typeExpression error.text error.complaint

/-- What is told of a failure of writing or reading JSON, besides its cause. -/
def jsonCause : String := "JSON serialization error"

/-- What is told of a failure of writing or reading YAML, besides its cause. -/
def yamlCause : String := "YAML serialization error"

end Failure

namespace Data

/-- A row of quoted names, as alternatives to choose from. -/
def alternatives : List String → String
  | [] => "there are no variants"
  | [name] => "expected \x60" ++ name ++ "\x60"
  | [first, second] => "expected \x60" ++ first ++ "\x60 or \x60" ++ second ++ "\x60"
  | names => "expected one of " ++ ", ".intercalate (names.map fun name => "\x60" ++ name ++ "\x60")

/-- The wording of a misfit, where there is one that does not depend on the format. -/
def Misfit.message? : Misfit → Option String
  | .typeExpression error => some (Failure.ofParseError error).message
  | .missingField name => some ("missing field \x60" ++ name ++ "\x60")
  | .duplicateField name => some ("duplicate field \x60" ++ name ++ "\x60")
  | .unknownVariant name known =>
    some ("unknown variant \x60" ++ name ++ "\x60, " ++ alternatives known)
  | .otherKind => none

end Data

end ClientGen

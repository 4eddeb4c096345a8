import ClientGen.Convention.Basic
import ClientGen.TypeScript.Options

/-!
# Requests

What a user can ask for: where the input is and where the output goes, and the choices about the
client, the model and the run itself.
-/

namespace ClientGen.Command

/-- The format in which the model is written. -/
inductive DumpFormat where
  | yaml
  | json
  deriving DecidableEq, Repr

/-- The file that the model is written to. -/
def DumpFormat.fileName : DumpFormat → String
  | .yaml => "model.yaml"
  | .json => "model.json"

/-- A request. -/
structure Request where
  input : String
  output : String := "./services"
  /-- The convention of the server; if it is missing, it is found out. -/
  convention : Option Convention := none
  options : TypeScript.Options := {}
  /-- Whether the model is written too. -/
  dump : Option DumpFormat := none
  /-- Whether classes with the same name are a failure. -/
  isStrict : Bool := false
  /-- Whether details of the run are told. -/
  isVerbose : Bool := false

end ClientGen.Command

import ClientGen.Route.Placeholder
import ClientGen.TypeScript.Wrapper

/-!
# Controllers of the client

A controller becomes a class with a function for each action. The function takes the parameters of
the action and sends a request: parameters for the path replace the placeholders of the route,
others make up the query, and one is sent as the body. Wrappers are turned into plain data before
they are sent, and what comes back is put into wrappers, alone or in a list.
-/

namespace ClientGen.TypeScript

/-- What the functions of a module have in common. -/
structure ActionWriter where
  scope : Scope
  passing : Passing

namespace ActionWriter

/-- The parameters of an action in the order in which they are declared. -/
def declared (writer : ActionWriter) (action : Action ClassId) : List (ActionParameter ClassId) :=
  match writer.passing with
  | .object => action.parameters
  | .positional =>
    action.parameters.filter (·.isRequired) ++ action.parameters.filter (!·.isRequired)

/-- Writes the declaration of a parameter. -/
def writeDeclaration (writer : ActionWriter) (parameter : ActionParameter ClassId) :
    Writing Code := do
  let type ← writer.scope.writeType writer.scope.observable parameter.shape
  return [parameter.name, if parameter.isRequired then ": " else "?: ", type]

/-- Writes the parameter list of a function. -/
def writeSignature (writer : ActionWriter) (action : Action ClassId) : Writing Code := do
  let declarations ← Writing.each writer.writeDeclaration (writer.declared action)
  return match declarations, writer.passing with
    | [], _ => []
    | declarations, .positional => Code.join ", " declarations
    | declarations, .object =>
      Code.row [["params: \x7b "], Code.join ", " declarations, [" \x7d"]]

/-- The value of a parameter. -/
def value (writer : ActionWriter) (name : String) : Fragment :=
  .parameter writer.passing name

/-- The name of the parameter that replaces a placeholder. Letters match in upper and lower case; if
no parameter matches, the placeholder has to have the right name. -/
def target (action : Action ClassId) (placeholder : String) : String :=
  match action.parameters.find? fun parameter =>
      parameter.position = .path &&
        Text.lowerAscii parameter.name == Text.lowerAscii placeholder with
  | some parameter => parameter.name
  | none => placeholder

/-- The route of an action with values for its placeholders. -/
def path (writer : ActionWriter) (action : Action ClassId) : Code :=
  if action.parameters.any (·.position = .path) then
    Code.row
      [["\x60"],
        (Text.pieces Route.plain? action.route.toList).flatMap fun
          | .char c => [String.singleton c]
          | .found placeholder =>
            ["$\x7b", writer.value (target action placeholder.name), "\x7d"],
        ["\x60"]]
  else ["\"", action.route, "\""]

/-- A parameter in the query. Where dates are objects they are written in their usual format. -/
def queryField (writer : ActionWriter) (parameter : ActionParameter ClassId) : Code :=
  let value := writer.value parameter.name
  if writer.scope.observable && parameter.shape.kind = .dateTime &&
      parameter.shape.layers.isEmpty then
    [parameter.name, ": ", value, " && ", value, ".toISOString()"]
  else [parameter.name, ": ", value]

/-- The query of a request, behind its path. -/
def query (writer : ActionWriter) (action : Action ClassId) : Code :=
  match action.parameters.filter (·.position = .query) with
  | [] => []
  | parameters =>
    Code.row
      [[" + helpers.getQueryString(\x7b "], Code.join ", " (parameters.map writer.queryField),
        [" \x7d)"]]

/-- The body of a request. A wrapper alone and the wrappers in a list give their plain data. -/
def body (writer : ActionWriter) (action : Action ClassId) : Code :=
  match action.parameters.find? (·.position = .body) with
  | none => ["undefined"]
  | some parameter =>
    let value := writer.value parameter.name
    match writer.scope.wrapper? parameter.shape, parameter.shape.layers with
    | some _, .array :: _ => ["JSON.stringify(", value, ".map(x => x.toJs()))"]
    | some _, [] => ["JSON.stringify(", value, ".toJs())"]
    | _, _ => ["JSON.stringify(", value, ")"]

/-- Writes what is done with a payload that has a wrapper. -/
def writeRewrap (writer : ActionWriter) (shape : Shape ClassId) : Writing Code := do
  let wrapper ← writer.scope.writeWrapper shape
  return match wrapper, shape.layers with
    | some type, [] => [".then(view => new ", type, "(view))"]
    | some type, [.array] => [".then(list => list.map(view => new ", type, "(view)))"]
    | _, _ => []

/-- Writes the request of an action. -/
def writeRequest (writer : ActionWriter) (action : Action ClassId) : Writing Code :=
  let arguments : Code :=
    Code.row
      [["("], writer.path action, writer.query action, [", \"", action.verb.text, "\", "],
        writer.body action, [")"]]
  match action.payload with
  | none => return Code.row [["this.client.fetch"], arguments]
  | some payload => do
    let type ← writer.scope.writeType false payload.shape
    let rewrap ← writer.writeRewrap payload.shape
    return Code.row [["this.client.fetchJson<", type, ">"], arguments, rewrap]

/-- The lines of the comment of an action. -/
def commentLines (action : Action ClassId) : List Code :=
  Code.stack
    [Code.given action.documentation fun (summary : String) => [summary],
      action.parameters.flatMap fun parameter =>
        Code.given parameter.documentation fun (text : String) =>
          ["@param ", parameter.name, " ", text],
      Code.given (action.payload.bind (·.documentation)) fun (text : String) =>
        ["@returns ", text]]

/-- The comment of an action. -/
def comment (action : Action ClassId) : List Code :=
  match commentLines action with
  | [] => []
  | lines => Code.stack [[["/**"]], lines.map fun line => .text " * " :: line, [[" */"]]]

/-- Writes the function of an action. -/
def writeFunction (writer : ActionWriter) (name : String) (action : Action ClassId) :
    Writing (List Code) := do
  let signature ← writer.writeSignature action
  let request ← writer.writeRequest action
  return (Code.stack
    [comment action,
      [Code.row [[name, " = ("], signature, [") => \x7b"]],
        Code.row [["    return "], request, [";"]],
        ["\x7d"]]]).map Code.indent

/-- Writes the function of an action behind the one before. -/
def writeFunctionLines (writer : ActionWriter) (named : String × Action ClassId) :
    Writing (List Code) := do
  let lines ← writer.writeFunction (QualifiedName.camelCase named.1) named.2
  return [] :: lines

/-- Writes the class of a controller. -/
def writeController (writer : ActionWriter) (controller : Controller ClassId) :
    Writing (List Code) := do
  let functions ← Writing.each writer.writeFunctionLines controller.uniqueNames
  return Code.stack
    [Code.comment controller.documentation,
      [["export class ", controller.name, "Controller \x7b"],
        ["    constructor(private client: helpers.ApiClient) \x7b\x7d"]],
      functions.flatten,
      [["\x7d"], []]]

/-! ### What is written -/

/-- The declaration of a parameter. -/
def declaration (writer : ActionWriter) (parameter : ActionParameter ClassId) : Code :=
  (writer.writeDeclaration parameter).value

/-- The parameter list of a function. -/
def signature (writer : ActionWriter) (action : Action ClassId) : Code :=
  (writer.writeSignature action).value

/-- What is done with a payload that has a wrapper. -/
def rewrap (writer : ActionWriter) (shape : Shape ClassId) : Code :=
  (writer.writeRewrap shape).value

/-- The request of an action. -/
def request (writer : ActionWriter) (action : Action ClassId) : Code :=
  (writer.writeRequest action).value

/-- The function of an action. -/
def function (writer : ActionWriter) (name : String) (action : Action ClassId) : List Code :=
  (writer.writeFunction name action).value

/-- The class of a controller. -/
def controllerClass (writer : ActionWriter) (controller : Controller ClassId) : List Code :=
  (writer.writeController controller).value

variable (writer : ActionWriter) (action : Action ClassId)

theorem declaration_eq (parameter : ActionParameter ClassId) : writer.declaration parameter =
    ([parameter.name, if parameter.isRequired then ": " else "?: ",
      writer.scope.typeOf writer.scope.observable parameter.shape] : Code) := by
  simp [declaration, writeDeclaration, Scope.typeOf]

theorem signature_eq : writer.signature action =
    match (writer.declared action).map writer.declaration, writer.passing with
    | [], _ => []
    | declarations, .positional => Code.join ", " declarations
    | declarations, .object =>
      Code.row [["params: \x7b "], Code.join ", " declarations, [" \x7d"]] := by
  simp only [signature, writeSignature, Writing.value_bind, Writing.value_each, Writing.value_pure]
  rfl

theorem rewrap_eq (shape : Shape ClassId) : writer.rewrap shape =
    match writer.scope.wrapper? shape, shape.layers with
    | some type, [] => [".then(view => new ", type, "(view))"]
    | some type, [.array] => [".then(list => list.map(view => new ", type, "(view)))"]
    | _, _ => [] := by
  simp only [rewrap, writeRewrap, Writing.value_bind, Writing.value_pure, Scope.wrapper?]

theorem request_eq : writer.request action =
    (let arguments : Code :=
      Code.row
        [["("], writer.path action, writer.query action, [", \"", action.verb.text, "\", "],
          writer.body action, [")"]]
    match action.payload with
    | none => Code.row [["this.client.fetch"], arguments]
    | some payload =>
      Code.row
        [["this.client.fetchJson<", writer.scope.typeOf false payload.shape, ">"], arguments,
          writer.rewrap payload.shape] : Code) := by
  unfold request writeRequest
  cases action.payload with
  | none => rfl
  | some payload =>
    simp only [Writing.value_bind, Writing.value_pure]
    rfl

theorem function_eq (name : String) : writer.function name action =
    (Code.stack
      [comment action,
        [Code.row [[name, " = ("], writer.signature action, [") => \x7b"]],
          Code.row [["    return "], writer.request action, [";"]],
          ["\x7d"]]]).map Code.indent := by
  simp only [function, writeFunction, Writing.value_bind, Writing.value_pure]
  rfl

theorem controllerClass_eq (controller : Controller ClassId) : writer.controllerClass controller =
    Code.stack
      [Code.comment controller.documentation,
        [["export class ", controller.name, "Controller \x7b"],
          ["    constructor(private client: helpers.ApiClient) \x7b\x7d"]],
        controller.uniqueNames.flatMap fun named =>
          [] :: writer.function (QualifiedName.camelCase named.1) named.2,
        [["\x7d"], []]] := by
  simp only [controllerClass, writeController, writeFunctionLines, Writing.value_bind,
    Writing.value_each, Writing.value_pure, List.flatMap_def]
  rfl

end ActionWriter

end ClientGen.TypeScript

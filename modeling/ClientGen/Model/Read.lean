import ClientGen.Data.Settle
import ClientGen.Model.Write

/-!
# Reading service models

The layouts of the records in which models are dumped. Whatever a dump may leave out may be left
out here.
-/

namespace ClientGen

open Data

namespace Shape

/-- The kinds by their names. -/
def kindNames : List (String × Shape.Kind) :=
  Shape.Kind.all.map fun kind => (kind.name, kind)

/-- Reads a shape that holds others no deeper than a bound. -/
def readerWithin : Nat → Reader (Shape ClassId)
  | 0 => fun _ _ => .error (.flaw .malformed)
  | bound + 1 =>
    .record
      (.cons ⟨"identifier", .choice kindNames⟩ <| .cons ⟨"class", .orNull (.word 64)⟩ <|
        .cons ⟨"modifiers", .list (.choice [("Array", .array), ("Dictionary", .dictionary)])⟩ <|
        .cons ⟨"nullable", .bool⟩ <| .cons ⟨"optional", .bool⟩ <|
        .cons ⟨"generic_arguments", .orNull (.list (readerWithin bound))⟩ <|
        .cons ⟨"generic_name", .orNull .text⟩ <|
        .cons ⟨"union", .orNull (.list (readerWithin bound))⟩ .nil)
      fun form (kind, reference, layers, nullable, optional, arguments, parameterName,
          alternatives, ()) => do
        let kind ← Layout.required form "identifier" kind
        let reference ← Layout.orAbsent form reference
        let arguments ← Layout.orAbsent form arguments
        let parameterName ← Layout.orAbsent form parameterName
        let alternatives ← Layout.orAbsent form alternatives
        .ok
          { kind, reference, arguments, parameterName, alternatives
            layers := layers.getD []
            nullable := nullable.getD false
            optional := optional.getD false }

/-- Reads a shape. Those inside it take containers, so the levels of the scope bound them. -/
def reader : Reader (Shape ClassId) := fun scope source =>
  readerWithin (scope.levels + 1) scope source

end Shape

/-- Reads the demands on a value. -/
def Constraints.reader : Reader Constraints :=
  .record
    (.cons ⟨"min_length", .orNull (.word 32)⟩ <| .cons ⟨"max_length", .orNull (.word 32)⟩ <|
      .cons ⟨"minimum", .orNull .float⟩ <| .cons ⟨"maximum", .orNull .float⟩ <|
      .cons ⟨"compare", .orNull .text⟩ <|
      .cons ⟨"format", .choice [("None", .none), ("Email", .email)]⟩ <|
      .cons ⟨"required", .bool⟩ .nil)
    fun form (minLength, maxLength, minimum, maximum, compare, format, required, ()) => do
      let minLength ← Layout.orAbsent form minLength
      let maxLength ← Layout.orAbsent form maxLength
      let minimum ← Layout.orAbsent form minimum
      let maximum ← Layout.orAbsent form maximum
      let compare ← Layout.orAbsent form compare
      .ok ⟨minLength, maxLength, minimum, maximum, compare, format.getD .none, required.getD false⟩

/-- Reads a property. -/
def ClassProperty.reader : Reader (ClassProperty ClassId) :=
  .record
    (.cons ⟨"name", .text⟩ <| .cons ⟨"type_node", Shape.reader⟩ <|
      .cons ⟨"documentation", .orNull .text⟩ <| .cons ⟨"is_read_only", .bool⟩ <|
      .cons ⟨"constraints", Constraints.reader⟩ .nil)
    fun form (name, shape, documentation, isReadOnly, constraints, ()) => do
      let name ← Layout.required form "name" name
      let shape ← Layout.required form "type_node" shape
      let documentation ← Layout.orAbsent form documentation
      let isReadOnly ← Layout.required form "is_read_only" isReadOnly
      .ok ⟨name, shape, documentation, isReadOnly, constraints.getD {}⟩

/-- Reads a member of an enumeration. -/
def EnumValue.reader : Reader EnumValue :=
  .record
    (.cons ⟨"name", .text⟩ <| .cons ⟨"value", .int64⟩ <|
      .cons ⟨"documentation", .orNull .text⟩ .nil)
    fun form (name, value, documentation, ()) => do
      let name ← Layout.required form "name" name
      let value ← Layout.required form "value" value
      let documentation ← Layout.orAbsent form documentation
      .ok ⟨name, value, documentation⟩

/-- Reads what a class is made of. -/
def ClassBody.reader : Reader (ClassBody ClassId) :=
  .keyed
    [("object", .map .object (.list ClassProperty.reader)),
      ("enum", .map .enum (.list EnumValue.reader))]

/-- Reads a class. -/
def ClassEntry.reader : Reader (ClassEntry ClassId) :=
  .record
    (.cons ⟨"name", .text⟩ <| .cons ⟨"source_name", .text⟩ <|
      .cons ⟨"documentation", .orNull .text⟩ <| .cons ⟨"body", ClassBody.reader⟩ <|
      .cons ⟨"generic_parameters", .orNull (.list .text)⟩ <| .cons ⟨"is_read_only", .bool⟩ <|
      .cons ⟨"is_observable", .bool⟩ <| .cons ⟨"version", .orNull .text⟩ .nil)
    fun form (name, sourceName, documentation, body, genericParameters, isReadOnly, isObservable,
        version, ()) => do
      let name ← Layout.required form "name" name
      let sourceName ← Layout.required form "source_name" sourceName
      let documentation ← Layout.orAbsent form documentation
      let body ← Layout.required form "body" body
      let genericParameters ← Layout.orAbsent form genericParameters
      let isReadOnly ← Layout.required form "is_read_only" isReadOnly
      let isObservable ← Layout.required form "is_observable" isObservable
      let version ← Layout.orAbsent form version
      .ok ⟨name, sourceName, documentation, body, genericParameters, isReadOnly, isObservable,
        version⟩

/-- Reads the classes of a table; of two under the same name the last one counts. -/
def ClassTable.reader : Reader (ClassTable ClassId) :=
  .map (fun entries => ⟨Ordered.ofList entries⟩) (.entries ClassEntry.reader)

/-- The kinds of authorization, two of which come with a text. -/
def Authorization.layout : PairLayout Authorization where
  kindName := "kind"
  contentName := "value"
  alternatives :=
    [("policy", .withContent (.map .policy .text)), ("roles", .withContent (.map .roles .text)),
      ("authenticated", .alone .authenticated)]

/-- Reads a parameter. -/
def ActionParameter.reader : Reader (ActionParameter ClassId) :=
  .record
    (.cons ⟨"name", .text⟩ <| .cons ⟨"type_node", Shape.reader⟩ <|
      .cons ⟨"is_required", .bool⟩ <|
      .cons ⟨"position", .choice [("Path", .path), ("Query", .query), ("Body", .body)]⟩ <|
      .cons ⟨"documentation", .orNull .text⟩ <| .cons ⟨"constraints", Constraints.reader⟩ .nil)
    fun form (name, shape, isRequired, position, documentation, constraints, ()) => do
      let name ← Layout.required form "name" name
      let shape ← Layout.required form "type_node" shape
      let isRequired ← Layout.required form "is_required" isRequired
      let position ← Layout.required form "position" position
      let documentation ← Layout.orAbsent form documentation
      .ok ⟨name, shape, isRequired, position, documentation, constraints.getD {}⟩

/-- Reads what an action returns. -/
def Payload.reader : Reader (Payload ClassId) :=
  .record
    (.cons ⟨"type_node", Shape.reader⟩ <| .cons ⟨"documentation", .orNull .text⟩ .nil)
    fun form (shape, documentation, ()) => do
      let shape ← Layout.required form "type_node" shape
      let documentation ← Layout.orAbsent form documentation
      .ok ⟨shape, documentation⟩

/-- Reads an action. -/
def Action.reader : Reader (Action ClassId) :=
  .record
    (.cons ⟨"name", .text⟩ <|
      .cons ⟨"verb", .choice (Verb.all.map fun verb => (verb.name, verb))⟩ <|
      .cons ⟨"route", .text⟩ <| .cons ⟨"version", .orNull .text⟩ <|
      .cons ⟨"authorization", .orNull Authorization.layout.reader⟩ <|
      .cons ⟨"documentation", .orNull .text⟩ <|
      .cons ⟨"parameters", .list ActionParameter.reader⟩ <|
      .cons ⟨"return_node", .orNull Payload.reader⟩ <| .cons ⟨"controller", .text⟩ .nil)
    fun form (name, verb, route, version, authorization, documentation, parameters, payload,
        controller, ()) => do
      let name ← Layout.required form "name" name
      let verb ← Layout.required form "verb" verb
      let route ← Layout.required form "route" route
      let version ← Layout.orAbsent form version
      let authorization ← Layout.orAbsent form authorization
      let documentation ← Layout.orAbsent form documentation
      let parameters ← Layout.required form "parameters" parameters
      let payload ← Layout.orAbsent form payload
      let controller ← Layout.required form "controller" controller
      .ok ⟨name, verb, route, version, authorization, documentation, parameters, payload,
        controller⟩

/-- Reads a controller. -/
def Controller.reader : Reader (Controller ClassId) :=
  .record
    (.cons ⟨"name", .text⟩ <| .cons ⟨"documentation", .orNull .text⟩ <|
      .cons ⟨"actions", .list Action.reader⟩ .nil)
    fun form (name, documentation, actions, ()) => do
      let name ← Layout.required form "name" name
      let documentation ← Layout.orAbsent form documentation
      let actions ← Layout.required form "actions" actions
      .ok ⟨name, documentation, actions⟩

/-- Reads two declarations that want the same name. -/
def NameClash.reader : Reader NameClash :=
  .record (.cons ⟨"name", .text⟩ <| .cons ⟨"first", .text⟩ <| .cons ⟨"second", .text⟩ .nil)
    fun form (name, first, second, ()) => do
      let name ← Layout.required form "name" name
      let first ← Layout.required form "first" first
      let second ← Layout.required form "second" second
      .ok ⟨name, first, second⟩

/-- Reads a model. -/
def ServiceModel.reader : Reader (ServiceModel ClassId) :=
  .record
    (.cons ⟨"controllers", .list Controller.reader⟩ <| .cons ⟨"types", ClassTable.reader⟩ <|
      .cons ⟨"name_collisions", .list NameClash.reader⟩ .nil)
    fun form (controllers, types, nameClashes, ()) => do
      let controllers ← Layout.required form "controllers" controllers
      let types ← Layout.required form "types" types
      .ok ⟨controllers, types, nameClashes.getD []⟩

end ClientGen

import ClientGen.Data.Tree
import ClientGen.Model.Service

/-!
# Writing service models

The records in which models are dumped. Fields without a value are left out, and so are lists of
layers and demands that are empty.
-/

namespace ClientGen

open Data

/-- The name of a layer. -/
def Layer.name : Layer → String
  | .array => "Array"
  | .dictionary => "Dictionary"

namespace Shape

mutual

/-- The record of a shape. -/
def toTree : Shape ClassId → Tree
  | ⟨kind, reference, layers, nullable, optional, arguments, parameterName, alternatives⟩ =>
    .record <|
      Tree.field "identifier" (.text kind.name) ++
      Tree.optional "class" (fun id => .int (id : Nat)) reference ++
      Tree.nonempty "modifiers" (fun layer => .text layer.name) layers ++
      Tree.field "nullable" (.bool nullable) ++
      Tree.field "optional" (.bool optional) ++
      optionTree "generic_arguments" arguments ++
      Tree.optional "generic_name" .text parameterName ++
      optionTree "union" alternatives

/-- A field of shapes that may be missing. -/
def optionTree (name : String) : Option (List (Shape ClassId)) → List (String × Tree)
  | none => []
  | some shapes => [(name, .list (listTrees shapes))]

/-- The records of a list of shapes. -/
def listTrees : List (Shape ClassId) → List Tree
  | [] => []
  | shape :: shapes => shape.toTree :: listTrees shapes

end

end Shape

/-- The name of a format. -/
def ValueFormat.name : ValueFormat → String
  | .none => "None"
  | .email => "Email"

/-- The record of the demands on a value. -/
def Constraints.toTree (constraints : Constraints) : Tree :=
  .record <|
    Tree.optional "min_length" (.int ·) constraints.minLength ++
    Tree.optional "max_length" (.int ·) constraints.maxLength ++
    Tree.optional "minimum" .real constraints.minimum ++
    Tree.optional "maximum" .real constraints.maximum ++
    Tree.optional "compare" .text constraints.compare ++
    Tree.field "format" (.text constraints.format.name) ++
    Tree.field "required" (.bool constraints.required)

/-- A field for demands, which is left out when there are none. -/
def Constraints.field (constraints : Constraints) : List (String × Tree) :=
  if constraints.isEmpty then [] else [("constraints", constraints.toTree)]

/-- The record of a property. -/
def ClassProperty.toTree (property : ClassProperty ClassId) : Tree :=
  .record <|
    Tree.field "name" (.text property.name) ++
    Tree.field "type_node" property.shape.toTree ++
    Tree.optional "documentation" .text property.documentation ++
    Tree.field "is_read_only" (.bool property.isReadOnly) ++
    property.constraints.field

/-- The record of a member of an enumeration. -/
def EnumValue.toTree (value : EnumValue) : Tree :=
  .record <|
    Tree.field "name" (.text value.name) ++
    Tree.field "value" (.int value.value) ++
    Tree.optional "documentation" .text value.documentation

/-- What a class is made of, under the name of its kind. -/
def ClassBody.toTree : ClassBody ClassId → Tree
  | .object properties => .variant "object" (.list (properties.map ClassProperty.toTree))
  | .enum values => .variant "enum" (.list (values.map EnumValue.toTree))

/-- The record of a class. -/
def ClassEntry.toTree (entry : ClassEntry ClassId) : Tree :=
  .record <|
    Tree.field "name" (.text entry.name) ++
    Tree.field "source_name" (.text entry.sourceName) ++
    Tree.optional "documentation" .text entry.documentation ++
    Tree.field "body" entry.body.toTree ++
    Tree.optional "generic_parameters" (fun names => .list (names.map .text))
      entry.genericParameters ++
    Tree.field "is_read_only" (.bool entry.isReadOnly) ++
    Tree.field "is_observable" (.bool entry.isObservable) ++
    Tree.optional "version" .text entry.version

/-- The classes of a table under their names. -/
def ClassTable.toTree (table : ClassTable ClassId) : Tree :=
  .record (table.entries.map fun (name, entry) => (name, entry.toTree))

/-- The record of an authorization requirement. -/
def Authorization.toTree : Authorization → Tree
  | .policy name => .record [("kind", .text "policy"), ("value", .text name)]
  | .roles names => .record [("kind", .text "roles"), ("value", .text names)]
  | .authenticated => .record [("kind", .text "authenticated")]

/-- The name of a position. -/
def Position.name : Position → String
  | .path => "Path"
  | .query => "Query"
  | .body => "Body"

/-- The record of a parameter. -/
def ActionParameter.toTree (parameter : ActionParameter ClassId) : Tree :=
  .record <|
    Tree.field "name" (.text parameter.name) ++
    Tree.field "type_node" parameter.shape.toTree ++
    Tree.field "is_required" (.bool parameter.isRequired) ++
    Tree.field "position" (.text parameter.position.name) ++
    Tree.optional "documentation" .text parameter.documentation ++
    parameter.constraints.field

/-- The record of what an action returns. -/
def Payload.toTree (payload : Payload ClassId) : Tree :=
  .record <|
    Tree.field "type_node" payload.shape.toTree ++
    Tree.optional "documentation" .text payload.documentation

/-- The record of an action. -/
def Action.toTree (action : Action ClassId) : Tree :=
  .record <|
    Tree.field "name" (.text action.name) ++
    Tree.field "verb" (.text action.verb.name) ++
    Tree.field "route" (.text action.route) ++
    Tree.optional "version" .text action.version ++
    Tree.optional "authorization" Authorization.toTree action.authorization ++
    Tree.optional "documentation" .text action.documentation ++
    Tree.field "parameters" (.list (action.parameters.map ActionParameter.toTree)) ++
    Tree.optional "return_node" Payload.toTree action.payload ++
    Tree.field "controller" (.text action.controller)

/-- The record of a controller. -/
def Controller.toTree (controller : Controller ClassId) : Tree :=
  .record <|
    Tree.field "name" (.text controller.name) ++
    Tree.optional "documentation" .text controller.documentation ++
    Tree.field "actions" (.list (controller.actions.map Action.toTree))

/-- The record of two declarations that want the same name. -/
def NameClash.toTree (clash : NameClash) : Tree :=
  .record
    [("name", .text clash.name), ("first", .text clash.first), ("second", .text clash.second)]

/-- The record of a model. -/
def ServiceModel.toTree (model : ServiceModel ClassId) : Tree :=
  .record <|
    Tree.field "controllers" (.list (model.controllers.map Controller.toTree)) ++
    Tree.field "types" model.types.toTree ++
    Tree.nonempty "name_collisions" NameClash.toTree model.nameClashes

end ClientGen

import ClientGen.Data.Settle
import ClientGen.Declaration.Basic

/-!
# Reading declarations

The layouts of the records in which declarations are written down. Most fields may be left out; the
default values are those of the structures.
-/

namespace ClientGen

open Data

namespace Attribute

/-- An attribute whose only argument is a text that may be missing. -/
def readTemplate (make : Option String → Attribute) : Reader Attribute :=
  .record (.cons ⟨"template", .orNull .text⟩ .nil) fun _ (template, ()) =>
    .ok (make (template.getD none))

/-- An attribute with one argument that has to be given. -/
def readOne {α : Type} (name : String) (reader : Reader α) (make : α → Attribute) :
    Reader Attribute :=
  .record (.cons ⟨name, reader⟩ .nil) fun form (argument, ()) =>
    (Layout.required form name argument).map make

/-- An attribute with one argument that has a default. -/
def readDefault {α : Type} (name : String) (reader : Reader α) (default : α)
    (make : α → Attribute) : Reader Attribute :=
  .record (.cons ⟨name, reader⟩ .nil) fun _ (argument, ()) => .ok (make (argument.getD default))

/-- The attributes by their names. -/
def readers : List (String × Reader Attribute) :=
  [("Route", readTemplate .route),
    ("RoutePrefix", readOne "name" .text .routePrefix),
    ("HttpGet", readTemplate .httpGet),
    ("HttpPost", readTemplate .httpPost),
    ("HttpPut", readTemplate .httpPut),
    ("HttpDelete", readTemplate .httpDelete),
    ("HttpPatch", readTemplate .httpPatch),
    ("NonAction", .unit .nonAction),
    ("ApiExplorerSettings", readDefault "ignore_api" .bool false .apiExplorerSettings),
    ("FromQuery", .unit .fromQuery),
    ("FromUri", .unit .fromUri),
    ("FromBody", .unit .fromBody),
    ("FromRoute", .unit .fromRoute),
    ("Authorize",
      .record (.cons ⟨"policy", .orNull .text⟩ (.cons ⟨"roles", .orNull .text⟩ .nil))
        fun _ (policy, roles, ()) => .ok (.authorize (policy.getD none) (roles.getD none))),
    ("AllowAnonymous", .unit .allowAnonymous),
    ("JsonIgnore", .unit .jsonIgnore),
    ("ReadOnly", readDefault "value" .bool true .readOnly),
    ("Editable", readOne "allow_edit" .bool .editable),
    ("Required", .unit .required),
    ("StringLength",
      .record (.cons ⟨"maximum", .word 32⟩ (.cons ⟨"minimum", .orNull (.word 32)⟩ .nil))
        fun form (maximum, minimum, ()) => do
          let maximum ← Layout.required form "maximum" maximum
          .ok (.stringLength maximum (minimum.getD none))),
    ("MinLength", readOne "length" (.word 32) .minLength),
    ("MaxLength", readOne "length" (.word 32) .maxLength),
    ("Range",
      .record (.cons ⟨"minimum", .float⟩ (.cons ⟨"maximum", .float⟩ .nil))
        fun form (minimum, maximum, ()) => do
          let minimum ← Layout.required form "minimum" minimum
          let maximum ← Layout.required form "maximum" maximum
          .ok (.range minimum maximum)),
    ("Compare", readOne "other_property" .text .compare),
    ("EmailAddress", .unit .emailAddress),
    ("UnionType", readOne "types" (.list .typeExpr) .unionType),
    ("ReturnType", readOne "return_type" .typeExpr .returnType),
    ("Json", readDefault "observable" .bool true .json)]

/-- Reads an attribute. -/
def reader : Reader Attribute :=
  .union "annotation" readers

end Attribute

/-- Reads a property. -/
def Property.reader : Reader Property :=
  .record
    (.cons ⟨"name", .text⟩ <| .cons ⟨"type", .typeExpr⟩ <| .cons ⟨"nullable", .bool⟩ <|
      .cons ⟨"annotations", .list Attribute.reader⟩ .nil)
    fun form (name, type, nullable, attributes, ()) => do
      let name ← Layout.required form "name" name
      let type ← Layout.required form "type" type
      .ok ⟨name, type, nullable.getD false, attributes.getD []⟩

/-- Reads a parameter. -/
def Parameter.reader : Reader Parameter :=
  .record
    (.cons ⟨"name", .text⟩ <| .cons ⟨"type", .typeExpr⟩ <| .cons ⟨"is_optional", .bool⟩ <|
      .cons ⟨"nullable", .bool⟩ <| .cons ⟨"annotations", .list Attribute.reader⟩ .nil)
    fun form (name, type, isOptional, nullable, attributes, ()) => do
      let name ← Layout.required form "name" name
      let type ← Layout.required form "type" type
      .ok ⟨name, type, isOptional.getD false, nullable.getD false, attributes.getD []⟩

/-- Reads a method. -/
def Method.reader : Reader Method :=
  .record
    (.cons ⟨"name", .text⟩ <| .cons ⟨"parameters", .list Parameter.reader⟩ <|
      .cons ⟨"return_type", .typeExpr⟩ <| .cons ⟨"annotations", .list Attribute.reader⟩ <|
      .cons ⟨"is_public", .bool⟩ <| .cons ⟨"is_special", .bool⟩ .nil)
    fun form (name, parameters, returnType, attributes, isPublic, isSpecial, ()) => do
      let name ← Layout.required form "name" name
      .ok ⟨name, parameters.getD [], returnType.getD .void, attributes.getD [],
        isPublic.getD true, isSpecial.getD false⟩

/-- Reads a member of an enumeration. -/
def EnumMember.reader : Reader EnumMember :=
  .record (.cons ⟨"name", .text⟩ <| .cons ⟨"value", .int64⟩ .nil)
    fun form (name, value, ()) => do
      let name ← Layout.required form "name" name
      let value ← Layout.required form "value" value
      .ok ⟨name, value⟩

/-- The kinds of declarations by their names. -/
def Declaration.kinds : List (String × Declaration.Kind) :=
  [("class", .classType), ("struct", .struct), ("interface", .interface), ("enum", .enum)]

/-- Reads a declaration. -/
def Declaration.reader : Reader Declaration :=
  .record
    (.cons ⟨"name", .text⟩ <| .cons ⟨"kind", .choice kinds⟩ <|
      .cons ⟨"base_type", .orNull .text⟩ <| .cons ⟨"interfaces", .list .typeExpr⟩ <|
      .cons ⟨"generic_parameters", .list .text⟩ <|
      .cons ⟨"annotations", .list Attribute.reader⟩ <|
      .cons ⟨"properties", .list Property.reader⟩ <| .cons ⟨"methods", .list Method.reader⟩ <|
      .cons ⟨"values", .list EnumMember.reader⟩ .nil)
    fun _ (name, kind, base, interfaces, genericParameters, attributes, properties, methods,
        values, ()) =>
      .ok
        { name := name.getD ""
          kind := kind.getD .classType
          base := base.getD none
          interfaces := interfaces.getD []
          genericParameters := genericParameters.getD []
          attributes := attributes.getD []
          properties := properties.getD []
          methods := methods.getD []
          values := values.getD [] }

end ClientGen

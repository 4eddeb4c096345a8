import ClientGen.Data.Tree
import ClientGen.Declaration.Basic

/-!
# Writing declarations

The records in which declarations are written down. Lists and texts that are missing are left out
of a declaration itself, and written in full in its members.
-/

namespace ClientGen

open Data

/-- The tree of a type expression is its text. -/
def TypeExpr.toTree (type : TypeExpr) : Tree :=
  .text type.toText

namespace Attribute

/-- The name of an attribute and its arguments. -/
def parts : Attribute → String × List (String × Tree)
  | .route template => ("Route", [("template", .orNull .text template)])
  | .routePrefix name => ("RoutePrefix", [("name", .text name)])
  | .httpGet template => ("HttpGet", [("template", .orNull .text template)])
  | .httpPost template => ("HttpPost", [("template", .orNull .text template)])
  | .httpPut template => ("HttpPut", [("template", .orNull .text template)])
  | .httpDelete template => ("HttpDelete", [("template", .orNull .text template)])
  | .httpPatch template => ("HttpPatch", [("template", .orNull .text template)])
  | .nonAction => ("NonAction", [])
  | .apiExplorerSettings ignoreApi => ("ApiExplorerSettings", [("ignore_api", .bool ignoreApi)])
  | .fromQuery => ("FromQuery", [])
  | .fromUri => ("FromUri", [])
  | .fromBody => ("FromBody", [])
  | .fromRoute => ("FromRoute", [])
  | .authorize policy roles =>
    ("Authorize", [("policy", .orNull .text policy), ("roles", .orNull .text roles)])
  | .allowAnonymous => ("AllowAnonymous", [])
  | .jsonIgnore => ("JsonIgnore", [])
  | .readOnly value => ("ReadOnly", [("value", .bool value)])
  | .editable allowEdit => ("Editable", [("allow_edit", .bool allowEdit)])
  | .required => ("Required", [])
  | .stringLength maximum minimum =>
    ("StringLength", [("maximum", .int maximum), ("minimum", .orNull (.int ·) minimum)])
  | .minLength length => ("MinLength", [("length", .int length)])
  | .maxLength length => ("MaxLength", [("length", .int length)])
  | .range minimum maximum => ("Range", [("minimum", .real minimum), ("maximum", .real maximum)])
  | .compare otherProperty => ("Compare", [("other_property", .text otherProperty)])
  | .emailAddress => ("EmailAddress", [])
  | .unionType types => ("UnionType", [("types", .list (types.map TypeExpr.toTree))])
  | .returnType type => ("ReturnType", [("return_type", type.toTree)])
  | .json observable => ("Json", [("observable", .bool observable)])

/-- The record of an attribute. -/
def toTree (attr : Attribute) : Tree :=
  .record (("annotation", .text attr.parts.1) :: attr.parts.2)

end Attribute

/-- The record of a property. -/
def Property.toTree (property : Property) : Tree :=
  .record
    [("name", .text property.name), ("type", property.type.toTree),
      ("nullable", .bool property.nullable),
      ("annotations", .list (property.attributes.map Attribute.toTree))]

/-- The record of a parameter. -/
def Parameter.toTree (parameter : Parameter) : Tree :=
  .record
    [("name", .text parameter.name), ("type", parameter.type.toTree),
      ("is_optional", .bool parameter.isOptional), ("nullable", .bool parameter.nullable),
      ("annotations", .list (parameter.attributes.map Attribute.toTree))]

/-- The record of a method. -/
def Method.toTree (method : Method) : Tree :=
  .record
    [("name", .text method.name), ("parameters", .list (method.parameters.map Parameter.toTree)),
      ("return_type", method.returnType.toTree),
      ("annotations", .list (method.attributes.map Attribute.toTree)),
      ("is_public", .bool method.isPublic), ("is_special", .bool method.isSpecial)]

/-- The record of a member of an enumeration. -/
def EnumMember.toTree (member : EnumMember) : Tree :=
  .record [("name", .text member.name), ("value", .int member.value)]

/-- The name of a kind of declaration. -/
def Declaration.Kind.text : Declaration.Kind → String
  | .classType => "class"
  | .struct => "struct"
  | .interface => "interface"
  | .enum => "enum"

/-- The record of a declaration. -/
def Declaration.toTree (declaration : Declaration) : Tree :=
  .record <|
    Tree.field "name" (.text declaration.name) ++
    Tree.field "kind" (.text declaration.kind.text) ++
    Tree.optional "base_type" .text declaration.base ++
    Tree.nonempty "interfaces" TypeExpr.toTree declaration.interfaces ++
    Tree.nonempty "generic_parameters" .text declaration.genericParameters ++
    Tree.nonempty "annotations" Attribute.toTree declaration.attributes ++
    Tree.nonempty "properties" Property.toTree declaration.properties ++
    Tree.nonempty "methods" Method.toTree declaration.methods ++
    Tree.nonempty "values" EnumMember.toTree declaration.values

end ClientGen

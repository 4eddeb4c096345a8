import ClientGen.Discovery.Server

/-!
# What discovery should find

The shape that a type expression means and the class that a declaration means, both written with the
names of classes. Nothing here depends on which classes have been found before, or in what order.
-/

namespace ClientGen

namespace Meaning

mutual

/-- The shape of the values, with the names of their classes. -/
def shape : Meaning → Shape String
  | .mk layers nullable optional core =>
    { coreShape core with layers, nullable, optional }

/-- The shape of a core. -/
def coreShape : Core → Shape String
  | .plain kind => { kind }
  | .parameter name => { kind := .genericParameter, parameterName := some name }
  | .enum declaration =>
    { kind := .enum, reference := some (QualifiedName.className declaration.name) }
  | .object declaration arguments =>
    { kind := .object, reference := some (QualifiedName.className declaration.name)
      arguments := if arguments.isEmpty then none else some (shapes arguments) }
  | .undescribed _ => { kind := .any }

/-- The shapes of a list of meanings. -/
def shapes : List Meaning → List (Shape String)
  | [] => []
  | meaning :: meanings => meaning.shape :: shapes meanings

end

end Meaning

/-- The shape of a member's values, which may be declared to be nullable. -/
def Catalog.memberShape (catalog : Catalog) (nullable : Bool) (type : TypeExpr) : Shape String :=
  ((catalog.meaning type).orNull nullable).shape

namespace Server

/-- The shape of a property. Where nothing is known about its values, the types that are hinted at
are alternatives. -/
def propertyShape (server : Server) (property : Property) : Shape String :=
  let shape := server.catalog.memberShape property.nullable property.type
  let hints := server.convention.unionTypes property
  if shape.kind == .any && !hints.isEmpty then
    { shape with
      kind := .union
      alternatives := some (hints.map (server.catalog.memberShape false)) }
  else shape

/-- The property of a class for a declared property. -/
def outlineProperty (server : Server) (declared : Declaration × Property) :
    ClassProperty String :=
  server.classProperty declared.1 declared.2 (server.propertyShape declared.2)

/-- The class for a declaration. Declarations whose properties somebody else is reading have a class
without properties. -/
def outline (server : Server) (opened : List String) (version : Option String)
    (declaration : Declaration) : ClassEntry String :=
  (server.newEntry version declaration).withProperties <|
    if declaration.name ∈ opened then []
    else (server.visibleProperties declaration).map server.outlineProperty

variable {server : Server} {opened : List String} {version : Option String}
  {declaration : Declaration}

theorem sourceName_outline :
    (server.outline opened version declaration).sourceName = declaration.name := by
  unfold outline newEntry ClassEntry.withProperties
  cases declaration.isEnum <;> rfl

theorem body_outline : (server.outline opened version declaration).body =
    if declaration.isEnum then .enum (declaration.values.map (server.enumValue declaration))
    else .object (if declaration.name ∈ opened then []
      else (server.visibleProperties declaration).map server.outlineProperty) := by
  unfold outline newEntry ClassEntry.withProperties
  cases declaration.isEnum <;> rfl

end Server

end ClientGen

import ClientGen.Convention.Basic
import ClientGen.Discovery.Meaning
import ClientGen.Documentation.Basic

/-!
# What is known about a server

A server is described by a catalog, by the convention it follows, and by its documentation. From
these follows what the class for a declaration is made of, as far as that does not refer to other
classes: its documentation, its members if it is an enumeration, and which properties are sent.
-/

namespace ClientGen

/-- A server. -/
structure Server where
  catalog : Catalog
  convention : Convention
  docs : DocIndex := {}

namespace Server

/-- Whether clients are told not to send a property. -/
def isReadOnlyProperty (property : Property) : Bool :=
  property.attributes.any fun
    | .readOnly value => value
    | .editable allowEdit => !allowEdit
    | _ => false

/-- Whether a property is left out of what is sent. -/
def isIgnored (property : Property) : Bool :=
  property.attributes.any fun
    | .jsonIgnore => true
    | _ => false

/-- The properties of a declaration that are sent, with their declarations. -/
def visibleProperties (server : Server) (declaration : Declaration) :
    List (Declaration × Property) :=
  (server.catalog.allProperties declaration).filter fun (_, property) => !isIgnored property

/-- The property of a class for a declared property, whose values have a shape. -/
def classProperty {ρ : Type} (server : Server) (declaring : Declaration) (property : Property)
    (shape : Shape ρ) : ClassProperty ρ :=
  { name := QualifiedName.camelCase property.name
    shape
    documentation := server.docs.propertySummary? declaring.name property.name
    isReadOnly := isReadOnlyProperty property
    constraints := .ofAttributes property.attributes }

/-- The member of a class for a declared member of an enumeration. -/
def enumValue (server : Server) (declaration : Declaration) (member : EnumMember) : EnumValue :=
  ⟨member.name, member.value, server.docs.enumValueSummary? declaration.name member.name⟩

/-- The class for a declaration, before its properties are known. An enumeration has none, and no
version. -/
def newEntry {ρ : Type} (server : Server) (version : Option String) (declaration : Declaration) :
    ClassEntry ρ :=
  let name := QualifiedName.className declaration.name
  let documentation := server.docs.typeSummary? declaration.name
  if declaration.isEnum then
    { name, documentation
      sourceName := declaration.name
      body := .enum (declaration.values.map (server.enumValue declaration)) }
  else
    { name, documentation, version
      sourceName := declaration.name
      body := .object []
      genericParameters :=
        if declaration.genericParameters.isEmpty then none else some declaration.genericParameters
      isObservable := server.convention.isObservable declaration }

/-- The names that the declarations of a catalog have as classes, each once. -/
def classNames (server : Server) : List String :=
  ((server.catalog.declarations ++ frameworkTypes).map fun declaration =>
    QualifiedName.className declaration.name).eraseDups

end Server

end ClientGen

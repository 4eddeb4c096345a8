import ClientGen.Convention.Basic

/-!
# Detecting the convention

Every declaration with the base of a controller votes for a convention: by the namespaces and names
of its bases, and by attributes that only one of the conventions has. A base that both have does
not vote.
-/

namespace ClientGen.Convention

/-- The bases of a declaration as they are written, most derived first. -/
def basesWritten (catalog : Catalog) (declaration : Declaration) : List String :=
  (catalog.hierarchy declaration).filterMap (·.base)

/-- Whether a base is that of a controller. -/
def isControllerBase (base : String) : Bool :=
  ["Controller", "ControllerBase", "ApiController"].contains (QualifiedName.shortName base)

/-- The convention that a base belongs to. -/
def ofBase? (base : String) : Option Convention :=
  if "Microsoft.AspNetCore.".toList.isPrefixOf base.toList then some .mvc
  else if "System.Web.Http.".toList.isPrefixOf base.toList then some .webApi
  else if QualifiedName.lastSegment base == "ControllerBase" then some .mvc
  else if QualifiedName.lastSegment base == "ApiController" then some .webApi
  else none

/-- The convention that an attribute belongs to. -/
def ofAttribute? : Attribute → Option Convention
  | .routePrefix _ | .fromUri => some .webApi
  | .fromRoute | .apiExplorerSettings _ => some .mvc
  | _ => none

/-- The attributes of a declaration, its methods and their parameters. -/
def attributesOf (declaration : Declaration) : List Attribute :=
  declaration.attributes ++ declaration.methods.flatMap fun method =>
    method.attributes ++ method.parameters.flatMap (·.attributes)

/-- The votes of a declaration. -/
def votes (catalog : Catalog) (declaration : Declaration) : List Convention :=
  let bases := basesWritten catalog declaration
  if bases.any isControllerBase then
    bases.filterMap ofBase? ++ (attributesOf declaration).filterMap ofAttribute?
  else []

/-- The conventions that somebody votes for, in a fixed order. -/
def detect (catalog : Catalog) : List Convention :=
  let all := catalog.declarations.flatMap (votes catalog)
  [Convention.mvc, .webApi].filter all.contains

end ClientGen.Convention

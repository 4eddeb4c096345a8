import ClientGen.Catalog.Basic
import ClientGen.Model.Service

/-!
# Conventions

A convention says by which base types and attributes a server marks its controllers and actions,
and where it declares routes, bindings and hints. The two conventions differ only in the answers to
the questions below.
-/

namespace ClientGen

/-- A convention for web services. -/
inductive Convention where
  | mvc
  | webApi
  deriving DecidableEq, Repr

/-- The first template among `Route` attributes. -/
def routeTemplate? (attributes : List Attribute) : Option String :=
  attributes.findSome? fun
    | .route template => template
    | _ => none

/-- The first attribute of a method that names a verb, with its template. -/
def Method.verbAttribute? (method : Method) : Option (Verb × Option String) :=
  method.attributes.findSome? fun
    | .httpGet template => some (.get, template)
    | .httpPost template => some (.post, template)
    | .httpPut template => some (.put, template)
    | .httpDelete template => some (.delete, template)
    | .httpPatch template => some (.patch, template)
    | _ => none

/-- The verb that an attribute of a method names. -/
def Method.verb? (method : Method) : Option Verb :=
  method.verbAttribute?.map (·.1)

/-- The fragment of the route that a method declares. The template of its first `Route` attribute
comes before that of its verb; an attribute without a template gives an empty fragment. -/
def Method.routeFragment? (method : Method) : Option String :=
  let route := method.attributes.findSome? fun
    | .route template => some template
    | _ => none
  match route, method.verbAttribute? with
  | some (some template), _ => some template
  | _, some (_, template) => some (template.getD "")
  | some none, none => some ""
  | none, none => none

/-- What a list of attributes demands of those who call. A policy comes before roles. -/
def authorization? (attributes : List Attribute) : Option Authorization :=
  attributes.findSome? fun
    | .authorize (some policy) _ => some (.policy policy)
    | .authorize none (some roles) => some (.roles roles)
    | .authorize none none => some .authenticated
    | _ => none

/-- Whether an attribute exempts from authorization. -/
def allowsAnonymous (attributes : List Attribute) : Bool :=
  attributes.any fun
    | .allowAnonymous => true
    | _ => false

/-- Whether a parameter is said to be the body of the request. -/
def Parameter.isFromBody (parameter : Parameter) : Bool :=
  parameter.attributes.any fun
    | .fromBody => true
    | _ => false

namespace Convention

/-- The name of a convention. -/
def name : Convention → String
  | .mvc => "mvc"
  | .webApi => "web-api"

/-- The base types of controllers, by last segment. -/
def controllerBases : Convention → List String
  | .mvc => ["Controller", "ControllerBase"]
  | .webApi => ["ApiController", "Controller"]

/-- Whether a declaration is a controller. -/
def isController (convention : Convention) (catalog : Catalog) (declaration : Declaration) :
    Bool :=
  declaration.kind == .classType &&
    (catalog.baseNames declaration).any convention.controllerBases.contains

/-- The prefix that a controller declares for its routes. -/
def routeStem? (convention : Convention) (declaration : Declaration) : Option String :=
  match convention with
  | .mvc => routeTemplate? declaration.attributes
  | .webApi =>
    let stem := declaration.attributes.findSome? fun
      | .routePrefix name => some name
      | _ => none
    stem.or (routeTemplate? declaration.attributes)

/-- Whether a method may be an action. -/
def isAction (convention : Convention) (method : Method) : Bool :=
  match convention with
  | .mvc =>
    !method.attributes.any fun
      | .nonAction => true
      | .apiExplorerSettings ignoreApi => ignoreApi
      | _ => false
  | .webApi =>
    let excluded := method.attributes.any fun
      | .nonAction => true
      | _ => false
    !excluded && !method.returnType.hasLastSegment "ActionResult"

/-- The type that a method is said to return in place of the declared one. -/
def returnOverride? (convention : Convention) (method : Method) : Option TypeExpr :=
  match convention with
  | .mvc => none
  | .webApi => method.attributes.findSome? fun
      | .returnType type => some type
      | _ => none

/-- Whether a parameter is said to be part of the query. -/
def isFromQuery (convention : Convention) (parameter : Parameter) : Bool :=
  parameter.attributes.any fun
    | .fromQuery => true
    | .fromUri => convention == .webApi
    | _ => false

/-- The types that are hinted at for the values of a property. -/
def unionTypes (convention : Convention) (property : Property) : List TypeExpr :=
  match convention with
  | .mvc => []
  | .webApi => property.attributes.flatMap fun
      | .unionType types => types
      | .returnType type => [type]
      | _ => []

/-- Whether the class of a declaration may have an observable wrapper. -/
def isObservable (convention : Convention) (declaration : Declaration) : Bool :=
  match convention with
  | .mvc => true
  | .webApi =>
    let stated := declaration.attributes.findSome? fun
      | .json observable => some observable
      | _ => none
    stated.getD true

end Convention

end ClientGen

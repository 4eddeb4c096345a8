import ClientGen.Discovery.Basic
import ClientGen.Route.Basic

/-!
# Actions

A method of a controller is an action when it declares a route and its verb is known, from an
attribute or from the beginning of its name. Each parameter is bound to the path, the query or the
body of the request; what is sent in the body becomes writable.
-/

namespace ClientGen

/-- What an action has to know about its controller. -/
structure ControllerContext where
  name : String
  routeStem : Option String
  authorization : Option Authorization

/-- The verbs that the beginning of a name can tell. -/
def verbPrefixes : List (String × Verb) :=
  [("get", .get), ("post", .post), ("put", .put), ("delete", .delete)]

/-- The verb that a method's name begins with, in letters of either case. -/
def verbOfName? (name : String) : Option Verb :=
  let lowered := (Text.lower name).toList
  (verbPrefixes.find? fun (start, _) => start.toList.isPrefixOf lowered).map (·.2)

/-- The argument of a wrapper, if the type is one of these. -/
def unwrap (wrappers : List String) (type : TypeExpr) : TypeExpr :=
  if wrappers.any type.hasLastSegment then type.args.head?.getD type else type

namespace Server

/-- Whether a type without arguments says that nothing in particular is returned. -/
def carriesNothing (server : Server) (name : String) : Bool :=
  ["IActionResult", "ActionResult", "IHttpActionResult", "Task", "ValueTask"].contains
      (QualifiedName.lastSegment name) ||
    server.catalog.implements name ["IActionResult", "IHttpActionResult"]

/-- The type of what is returned, without the wrappers of asynchronous calls and of results. -/
def payloadType? (server : Server) (declared : TypeExpr) : Option TypeExpr :=
  let awaited := unwrap ["Task\x601", "ValueTask\x601"] declared
  match unwrap ["ActionResult\x601", "IHttpActionResult\x601"] awaited with
  | .void => none
  | .named name [] => if server.carriesNothing name then none else some (.named name [])
  | type => some type

/-- Where a parameter goes and whether it has to be given. The placeholders of the route decide
first; what is in the query may be left out if the parameter says so in any way. -/
def bind {ρ : Type} (server : Server) (bindings : List (String × Bool)) (parameter : Parameter)
    (shape : Shape ρ) : Position × Bool :=
  let mayBeAbsent :=
    parameter.isOptional || parameter.nullable || shape.nullable || shape.optional
  let required := (Constraints.ofAttributes parameter.attributes).required || !mayBeAbsent
  match Ordered.find? (Text.lower parameter.name) bindings with
  | some isOptional => (.path, !isOptional)
  | none =>
    if server.convention.isFromQuery parameter then (.query, required)
    else if parameter.isFromBody || shape.isPlainObject then (.body, true)
    else (.query, required)

/-- Reads a parameter of an action. -/
def readParameter (server : Server) (version : Option String) (bindings : List (String × Bool))
    (doc : Option MemberDoc) (parameter : Parameter) (discovery : Discovery) :
    ActionParameter ClassId × Discovery :=
  let (shape, discovery) :=
    discovery.resolve server [] version parameter.nullable parameter.type
  let (position, isRequired) := server.bind bindings parameter shape
  let documentation := doc.bind fun doc => Ordered.find? parameter.name doc.parameters
  ({ name := parameter.name, shape, isRequired, position, documentation
     constraints := .ofAttributes parameter.attributes },
    if position = .body then discovery.makeWritable shape else discovery)

/-- Reads the parameters of an action in order. -/
def readParameters (server : Server) (version : Option String) (bindings : List (String × Bool))
    (doc : Option MemberDoc) :
    List Parameter → Discovery → List (ActionParameter ClassId) × Discovery
  | [], discovery => ([], discovery)
  | parameter :: parameters, discovery =>
    let (first, discovery) := server.readParameter version bindings doc parameter discovery
    let (others, discovery) := server.readParameters version bindings doc parameters discovery
    (first :: others, discovery)

/-- Reads what an action returns. -/
def readPayload (server : Server) (version : Option String) (doc : Option MemberDoc)
    (method : Method) (discovery : Discovery) : Option (Payload ClassId) × Discovery :=
  let declared := (server.convention.returnOverride? method).getD method.returnType
  match server.payloadType? declared with
  | none => (none, discovery)
  | some type =>
    let (shape, discovery) := discovery.resolve server [] version false type
    (some ⟨shape, doc.bind (·.returns)⟩, discovery)

/-- The verb and the fragment of the route of a method, if it is an action. -/
def endpoint? (method : Method) : Option (Verb × String) := do
  let fragment ← method.routeFragment?
  let verb ← method.verb?.or (verbOfName? method.name)
  some (verb, fragment)

/-- Reads the action that a method is. -/
def readAction? (server : Server) (context : ControllerContext) (declaring : Declaration)
    (method : Method) (discovery : Discovery) : Option (Action ClassId × Discovery) := do
  let (verb, fragment) ← endpoint? method
  let route := Route.normalize context.routeStem fragment context.name method.name
  let version := Route.version? route
  let doc := server.docs.methodDoc? declaring method
  let (parameters, discovery) :=
    server.readParameters version (Route.bindings route) doc method.parameters discovery
  let (payload, discovery) := server.readPayload version doc method discovery
  let authorization :=
    if allowsAnonymous method.attributes then none
    else (authorization? method.attributes).or context.authorization
  some
    ({ name := method.name, verb, route, version, authorization, parameters, payload
       documentation := doc.bind (·.summary)
       controller := context.name }, discovery)

end Server

end ClientGen

import ClientGen.Discovery.Actions

/-!
# Surveying a server

The controllers of a server are read one after the other into one service model, so that a class
that several of them use is registered once. A controller without actions is left out.
-/

namespace ClientGen

/-- The controllers read so far, and the classes discovered with them. -/
structure Survey where
  controllers : List (Controller ClassId) := []
  discovery : Discovery := {}

namespace Survey

/-- Reads the actions among some methods. -/
def readActions (server : Server) (context : ControllerContext) :
    List (Declaration × Method) → Discovery → List (Action ClassId) × Discovery
  | [], discovery => ([], discovery)
  | (declaring, method) :: methods, discovery =>
    let eligible := method.isPublic && !method.isSpecial && server.convention.isAction method
    match if eligible then server.readAction? context declaring method discovery else none with
    | none => readActions server context methods discovery
    | some (action, discovery) =>
      let (actions, discovery) := readActions server context methods discovery
      (action :: actions, discovery)

/-- What actions have to know about a controller. -/
def contextOf (server : Server) (declaration : Declaration) : ControllerContext :=
  { name := QualifiedName.controllerName declaration.name
    routeStem := server.convention.routeStem? declaration
    authorization := authorization? declaration.attributes }

/-- Reads a controller, and tells whether it has any actions. -/
def addController (server : Server) (declaration : Declaration) (survey : Survey) :
    Bool × Survey :=
  let context := contextOf server declaration
  let (actions, discovery) :=
    readActions server context (server.catalog.allMethods declaration) survey.discovery
  if actions.isEmpty then (false, { survey with discovery })
  else
    let controller : Controller ClassId :=
      { name := context.name
        documentation := server.docs.typeSummary? declaration.name
        actions }
    (true, { controllers := survey.controllers ++ [controller], discovery })

/-- The service model of what was read. -/
def model (survey : Survey) : ServiceModel ClassId where
  controllers := survey.controllers
  types := survey.discovery.types
  nameClashes := survey.discovery.clashes

/-- Reads controllers one after the other. -/
def ofControllers (server : Server) (declarations : List Declaration) : Survey :=
  declarations.foldl (fun survey declaration => (survey.addController server declaration).2) {}

/-- The declarations that are controllers. -/
def candidates (server : Server) : List Declaration :=
  server.catalog.declarations.filter (server.convention.isController server.catalog)

/-- Reads all controllers of a server, in the order of the catalog. -/
def ofServer (server : Server) : Survey :=
  ofControllers server (candidates server)

end Survey

end ClientGen

import ClientGen.Model.ClassTable

/-!
# Service models

What is known about a web service when all its controllers have been read: the actions that can be
called, the classes of the values that are sent and received, and the names that more than one
declaration wanted for its class.
-/

namespace ClientGen

/-- The verb of a request. -/
inductive Verb where
  | get
  | post
  | put
  | delete
  | patch
  | unknown
  deriving DecidableEq, Repr

namespace Verb

/-- The name of a verb. -/
def name : Verb → String
  | .get => "Get"
  | .post => "Post"
  | .put => "Put"
  | .delete => "Delete"
  | .patch => "Patch"
  | .unknown => "Unknown"

/-- The verb as it stands in a request. -/
def text : Verb → String
  | .get => "GET"
  | .post => "POST"
  | .put => "PUT"
  | .delete => "DELETE"
  | .patch => "PATCH"
  | .unknown => "UNKNOWN"

/-- All verbs. -/
def all : List Verb :=
  [.get, .post, .put, .delete, .patch, .unknown]

end Verb

/-- Where in a request a parameter goes. -/
inductive Position where
  | path
  | query
  | body
  deriving DecidableEq, Repr

/-- Who may call an action. -/
inductive Authorization where
  | policy (name : String)
  | roles (names : String)
  | authenticated
  deriving DecidableEq, Repr

/-- A parameter of an action. -/
structure ActionParameter (ρ : Type) where
  name : String
  shape : Shape ρ
  isRequired : Bool
  position : Position
  documentation : Option String := none
  constraints : Constraints := {}

/-- What an action returns. -/
structure Payload (ρ : Type) where
  shape : Shape ρ
  documentation : Option String := none

/-- Something that clients can call. -/
structure Action (ρ : Type) where
  name : String
  verb : Verb
  route : String
  version : Option String := none
  authorization : Option Authorization := none
  documentation : Option String := none
  parameters : List (ActionParameter ρ)
  payload : Option (Payload ρ) := none
  /-- The name of the controller. -/
  controller : String

/-- The actions of a controller. -/
structure Controller (ρ : Type) where
  name : String
  documentation : Option String := none
  actions : List (Action ρ)

/-- Two declarations that want the same name for their class; the first one has it. -/
structure NameClash where
  name : String
  first : String
  second : String
  deriving DecidableEq, Repr

/-- A web service. -/
structure ServiceModel (ρ : Type) where
  controllers : List (Controller ρ)
  types : ClassTable ρ
  nameClashes : List NameClash := []

variable {ρ : Type}

/-- Whether an action comes before another one, or may stand in front of it: by name, and among
equal names by the number of parameters. -/
def Action.precedes (a b : Action ρ) : Bool :=
  if a.name == b.name then a.parameters.length ≤ b.parameters.length else a.name < b.name

/-- Numbers the actions that share a name, from one on; `current` is the name of the action before
and `index` its number. -/
def numberActions (ordered : List (Action ρ)) (current : Option String) (index : Nat) :
    List (Action ρ) → List (String × Action ρ)
  | [] => []
  | action :: actions =>
    let index := if current == some action.name then index + 1 else 1
    let shared := 1 < (ordered.filter (·.name == action.name)).length
    let name := if shared then action.name ++ toString index else action.name
    (name, action) :: numberActions ordered (some action.name) index actions

/-- The actions of a controller in the order of their names and parameter counts, with names for
the client: actions that share a name are numbered. -/
def Controller.uniqueNames (controller : Controller ρ) : List (String × Action ρ) :=
  let ordered := controller.actions.mergeSort Action.precedes
  numberActions ordered none 0 ordered

end ClientGen

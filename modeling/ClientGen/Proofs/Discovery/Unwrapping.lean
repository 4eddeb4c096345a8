import ClientGen.Discovery.Actions

/-!
# Wrapped payloads

What an action returns may stand in the wrapper of an asynchronous call, in that of a result, or in
both. Each of the two steps that take wrappers off leaves alone what is not its own, so of a payload
that is no wrapper itself nothing tells any more how it was declared: neither whether it carries
anything nor what it becomes.
-/

namespace ClientGen

/-- The wrappers of asynchronous calls, by last segment. -/
def asyncWrappers : List String :=
  ["Task\x601", "ValueTask\x601"]

/-- The wrappers of results, by last segment. -/
def resultWrappers : List String :=
  ["ActionResult\x601", "IHttpActionResult\x601"]

/-- Whether a type is a wrapper, whatever stands in it. -/
def TypeExpr.isWrapper (type : TypeExpr) : Bool :=
  (asyncWrappers ++ resultWrappers).any type.hasLastSegment

/-- Whether a payload is declared by a type. -/
inductive Declares (payload : TypeExpr) : TypeExpr → Prop
  | bare : Declares payload payload
  | async {wrapper : String} (isAsync : QualifiedName.lastSegment wrapper ∈ asyncWrappers) :
    Declares payload (.named wrapper [payload])
  | result {wrapper : String} (isResult : QualifiedName.lastSegment wrapper ∈ resultWrappers) :
    Declares payload (.named wrapper [payload])
  | both {wrapper inner : String} (isAsync : QualifiedName.lastSegment wrapper ∈ asyncWrappers)
    (isResult : QualifiedName.lastSegment inner ∈ resultWrappers) :
    Declares payload (.named wrapper [.named inner [payload]])

variable {wrappers : List String} {type payload declared : TypeExpr} {name : String}

/-! ### Taking wrappers off -/

theorem unwrap_of_wrapper (isWrapper : QualifiedName.lastSegment name ∈ wrappers) :
    unwrap wrappers (.named name [payload]) = payload := by
  have found : wrappers.any (TypeExpr.named name [payload]).hasLastSegment = true := by
    rw [List.any_eq_true]
    exact ⟨_, isWrapper, beq_self_eq_true _⟩
  rw [unwrap, if_pos found]
  rfl

theorem unwrap_of_other (other : wrappers.any type.hasLastSegment = false) :
    unwrap wrappers type = type := by
  rw [unwrap, if_neg (by simp [other])]

theorem unwrap_named_of_other (other : QualifiedName.lastSegment name ∉ wrappers)
    (args : List TypeExpr) : unwrap wrappers (.named name args) = .named name args := by
  apply unwrap_of_other
  rw [List.any_eq_false]
  intro wrapper among isNamed
  apply other
  rwa [eq_of_beq isNamed]

theorem notMem_asyncWrappers {segment : String} (isResult : segment ∈ resultWrappers) :
    segment ∉ asyncWrappers := by
  have apart : ∀ segment ∈ resultWrappers, segment ∉ asyncWrappers := by decide
  exact apart segment isResult

/-- Taking the wrappers off leads from what declares a payload to the payload. -/
theorem unwrap_unwrap (declares : Declares payload declared) (bare : payload.isWrapper = false) :
    unwrap resultWrappers (unwrap asyncWrappers declared) = payload := by
  rw [TypeExpr.isWrapper, List.any_append, Bool.or_eq_false_iff] at bare
  rcases bare with ⟨noAsync, noResult⟩
  cases declares with
  | bare => rw [unwrap_of_other noAsync, unwrap_of_other noResult]
  | async isAsync => rw [unwrap_of_wrapper isAsync, unwrap_of_other noResult]
  | result isResult =>
    rw [unwrap_named_of_other (notMem_asyncWrappers isResult), unwrap_of_wrapper isResult]
  | both isAsync isResult => rw [unwrap_of_wrapper isAsync, unwrap_of_wrapper isResult]

namespace Server

/-- Whether nothing in particular is returned by what has a payload of some type. -/
def returnsNothing (server : Server) : TypeExpr → Bool
  | .void => true
  | .named name [] => server.carriesNothing name
  | _ => false

variable {server : Server}

/-- What is returned is the payload, unless it says that there is nothing. -/
theorem payloadType?_of_declares (declares : Declares payload declared)
    (bare : payload.isWrapper = false) :
    server.payloadType? declared =
      if server.returnsNothing payload then none else some payload := by
  have unwrapped : unwrap ["ActionResult\x601", "IHttpActionResult\x601"]
      (unwrap ["Task\x601", "ValueTask\x601"] declared) = payload := unwrap_unwrap declares bare
  rw [payloadType?, unwrapped]
  rcases payload with ⟨name, _ | ⟨argument, arguments⟩⟩ | element | name | _ <;> rfl

/-- Of the declared type of a method only the payload matters. -/
theorem readPayload_congr (same : server.payloadType? declared = server.payloadType? payload)
    (version : Option String) (doc : Option MemberDoc) (method : Method) (discovery : Discovery) :
    server.readPayload version doc { method with returnType := declared } discovery =
      server.readPayload version doc { method with returnType := payload } discovery := by
  have stated (type : TypeExpr) : server.convention.returnOverride?
      { method with returnType := type } = server.convention.returnOverride? method := rfl
  rw [readPayload, readPayload, stated declared, stated payload]
  cases server.convention.returnOverride? method with
  | some type => rfl
  | none => simp only [Option.getD_none, same]

/-- The wrappers of a payload make no difference to the action that a method is: whether there is
one, what is known about it, its parameters and its payload, and the classes, clashes and notices
that come of reading it are the same as if the payload was declared alone. It is what is returned,
unless it says that there is nothing. Which methods of a controller are read at all is decided
before and is no part of this. -/
theorem readAction?_regardless_of_wrappers (server : Server) (context : ControllerContext)
    (declaring : Declaration) (method : Method) (discovery : Discovery)
    (bare : payload.isWrapper = false) (declares : Declares payload declared) :
    server.readAction? context declaring { method with returnType := declared } discovery =
        server.readAction? context declaring { method with returnType := payload } discovery ∧
      server.payloadType? declared =
        if server.returnsNothing payload then none else some payload := by
  have same : server.payloadType? declared = server.payloadType? payload := by
    rw [payloadType?_of_declares declares bare, payloadType?_of_declares .bare bare]
  refine ⟨?_, payloadType?_of_declares declares bare⟩
  have docs (type : TypeExpr) : server.docs.methodDoc? declaring
      { method with returnType := type } = server.docs.methodDoc? declaring method := rfl
  have endpoint (type : TypeExpr) : endpoint? { method with returnType := type } =
      endpoint? method := rfl
  simp only [readAction?, readPayload_congr same, docs, endpoint]

/-- A server with a class of its own. -/
def widgetServer : Server where
  catalog := Catalog.empty.insert { name := "Shop.Widget" }
  convention := .webApi

/-- A type that is returned later, as a result. -/
def laterResult (payload : TypeExpr) : TypeExpr :=
  .named "Tasks.Task`1" [.named "Mvc.ActionResult`1" [payload]]

/-- An action that returns something. -/
def getting (returnType : TypeExpr) : Method where
  name := "Get"
  returnType
  attributes := [.httpGet none]

theorem readAction?_regardless_of_wrappers_of_widget :
    (TypeExpr.named "Shop.Widget" []).isWrapper = false ∧
      Declares (.named "Shop.Widget" []) (laterResult (.named "Shop.Widget" [])) ∧
      widgetServer.readAction? ⟨"Widgets", none, none⟩ {}
          (getting (laterResult (.named "Shop.Widget" []))) {} =
        widgetServer.readAction? ⟨"Widgets", none, none⟩ {}
          (getting (.named "Shop.Widget" [])) {} ∧
      widgetServer.payloadType? (laterResult (.named "Shop.Widget" [])) =
        some (.named "Shop.Widget" []) := by
  have bare : (TypeExpr.named "Shop.Widget" []).isWrapper = false := by decide
  have declares : Declares (.named "Shop.Widget" []) (laterResult (.named "Shop.Widget" [])) :=
    .both (by decide) (by decide)
  have read := readAction?_regardless_of_wrappers widgetServer ⟨"Widgets", none, none⟩ {}
    (getting .void) {} bare declares
  have something : widgetServer.returnsNothing (.named "Shop.Widget" []) = false := by decide
  rw [something] at read
  exact ⟨bare, declares, read⟩

example : widgetServer.payloadType? (laterResult (.named "Mvc.ActionResult" [])) = none := by decide

end Server

end ClientGen

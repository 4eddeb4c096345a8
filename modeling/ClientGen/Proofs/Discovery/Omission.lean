import ClientGen.Proofs.Discovery.Reading

/-!
# What is left out leaves no trace

Whether a method is an action is known from the method alone, before any of its types is looked at.
So a method that is none leaves nothing behind among the classes, and neither does a controller
without actions: the survey is what it would be if nobody had asked to read it.

`Server.readSteps` tells the reading of a method with the discovery handed on from step to step. A
rejection there keeps what was discovered up to it; that nothing was is what has to be shown.
-/

namespace ClientGen

namespace Server

variable {server : Server} {context : ControllerContext} {declaring : Declaration}
  {method : Method} {discovery : Discovery}

/-- The reading of a method, step by step. A step that rejects the method keeps whatever the steps
before it have discovered. -/
def readSteps (server : Server) (context : ControllerContext) (declaring : Declaration)
    (method : Method) : OptionT (StateM Discovery) (Action ClassId) := do
  let fragment ← method.routeFragment?.getM
  let verb ← (method.verb?.or (verbOfName? method.name)).getM
  let route := Route.normalize context.routeStem fragment context.name method.name
  let version := Route.version? route
  let doc := server.docs.methodDoc? declaring method
  let parameters ← modifyGet
    (server.readParameters version (Route.bindings route) doc method.parameters)
  let payload ← modifyGet (server.readPayload version doc method)
  let authorization :=
    if allowsAnonymous method.attributes then none
    else (authorization? method.attributes).or context.authorization
  return {
    name := method.name, verb, route, version, authorization, parameters, payload
    documentation := doc.bind (·.summary)
    controller := context.name }

/-- The steps give the action that is read, if there is one, and otherwise the discovery as it
was. -/
theorem run_readSteps :
    (server.readSteps context declaring method).run.run discovery =
      match server.readAction? context declaring method discovery with
      | none => (none, discovery)
      | some (action, later) => (some action, later) := by
  unfold readSteps readAction? endpoint?
  cases method.routeFragment? with
  | none => rfl
  | some fragment =>
    cases method.verb?.or (verbOfName? method.name) with
    | none => rfl
    | some verb => rfl

theorem readSteps_of_none (rejected :
    ((server.readSteps context declaring method).run.run discovery).1 = none) :
    ((server.readSteps context declaring method).run.run discovery).2 = discovery := by
  rw [run_readSteps] at rejected ⊢
  cases read : server.readAction? context declaring method discovery with
  | none => rfl
  | some result =>
    rw [read] at rejected
    cases rejected

/-- Whether some method of a declaration is read as an action. -/
def hasActions (server : Server) (declaration : Declaration) : Bool :=
  (server.catalog.allMethods declaration).any fun declared => server.isRead declared.2

end Server

namespace Survey

variable {server : Server} {survey : Survey} {declaration : Declaration}

/-! ### Controllers without actions -/

theorem readActions_of_none_read {context : ControllerContext} {discovery : Discovery}
    {methods : List (Declaration × Method)}
    (noneRead : methods.any (fun declared => server.isRead declared.2) = false) :
    readActions server context methods discovery = ([], discovery) := by
  induction methods with
  | nil => rfl
  | cons first methods ih =>
    rcases first with ⟨declaring, method⟩
    rw [List.any_cons, Bool.or_eq_false_iff] at noneRead
    rw [readActions_of_not_read methods (Bool.eq_false_iff.mp noneRead.1)]
    exact ih noneRead.2

theorem readActions_ne_nil {context : ControllerContext} {discovery : Discovery}
    {methods : List (Declaration × Method)}
    (someRead : methods.any (fun declared => server.isRead declared.2) = true) :
    (readActions server context methods discovery).1 ≠ [] := by
  induction methods with
  | nil => cases someRead
  | cons first methods ih =>
    rcases first with ⟨declaring, method⟩
    by_cases isRead : server.isRead method = true
    · rcases readActions_of_read methods isRead with ⟨action, later, -, whole⟩
      rw [whole]
      exact List.cons_ne_nil _ _
    · rw [List.any_cons, Bool.eq_false_iff.mpr isRead, Bool.false_or] at someRead
      rw [readActions_of_not_read methods isRead]
      exact ih someRead

theorem isEmpty_readActions (acts : server.hasActions declaration = true) :
    (readActions server (contextOf server declaration) (server.catalog.allMethods declaration)
      survey.discovery).1.isEmpty = false := by
  rw [List.isEmpty_eq_false_iff]
  exact readActions_ne_nil acts

/-- Reading a controller without actions changes nothing. -/
theorem addController_of_no_actions (noActions : server.hasActions declaration = false) :
    survey.addController server declaration = (false, survey) := by
  simp only [addController, readActions_of_none_read noActions]
  rfl

/-- Whether a controller is kept does not depend on what was read before. -/
theorem fst_addController :
    (survey.addController server declaration).1 = server.hasActions declaration := by
  cases acts : server.hasActions declaration with
  | false => rw [addController_of_no_actions acts]
  | true =>
    simp only [addController, isEmpty_readActions acts]
    rfl

theorem actions_ne_nil_addController
    (before : ∀ controller ∈ survey.controllers, controller.actions ≠ []) :
    ∀ controller ∈ (survey.addController server declaration).2.controllers,
      controller.actions ≠ [] := by
  cases acts : server.hasActions declaration with
  | false =>
    rw [addController_of_no_actions acts]
    exact before
  | true =>
    simp only [addController, isEmpty_readActions acts]
    intro controller among
    rcases List.mem_append.mp among with old | new
    · exact before controller old
    · rw [List.mem_singleton.mp new]
      exact readActions_ne_nil acts

theorem actions_ne_nil_ofControllers (server : Server) (declarations : List Declaration) :
    ∀ controller ∈ (ofControllers server declarations).controllers, controller.actions ≠ [] := by
  induction declarations using List.reverseRecOn with
  | nil => exact List.forall_mem_nil _
  | append_singleton declarations declaration ih =>
    rw [ofControllers_concat]
    exact actions_ne_nil_addController ih

theorem length_controllers_addController :
    (survey.addController server declaration).2.controllers.length =
      survey.controllers.length + if server.hasActions declaration then 1 else 0 := by
  cases acts : server.hasActions declaration with
  | false =>
    rw [addController_of_no_actions acts]
    rfl
  | true =>
    simp only [addController, isEmpty_readActions acts]
    exact List.length_append

/-- A survey has as many controllers as there are declarations with actions. -/
theorem length_controllers_ofControllers (server : Server) (declarations : List Declaration) :
    (ofControllers server declarations).controllers.length =
      declarations.countP server.hasActions := by
  induction declarations using List.reverseRecOn with
  | nil => rfl
  | append_singleton declarations declaration ih =>
    rw [ofControllers_concat, length_controllers_addController, ih, List.countP_append,
      List.countP_singleton]

/-- A survey is that of its controllers with actions. -/
theorem ofControllers_filter_hasActions (server : Server) (declarations : List Declaration) :
    ofControllers server (declarations.filter server.hasActions) =
      ofControllers server declarations := by
  rw [ofControllers, List.foldl_filter, ofControllers]
  congr 1
  funext survey declaration
  cases acts : server.hasActions declaration with
  | false =>
    rw [addController_of_no_actions acts]
    rfl
  | true => rfl

/-! ### Results -/

/-- What is left out leaves no trace. A controller that is not kept leaves any survey as it was, and
a method that is rejected leaves any discovery as it was, though a step that rejects it would keep
what the steps before it have discovered. So every controller of a survey has actions. Whether a
declaration is kept does not depend on the survey to which it is added, and those that are not can
be added or left out anywhere without a difference. -/
theorem omitted_without_trace (server : Server) :
    (∀ (survey : Survey) declaration, (survey.addController server declaration).1 = false →
        (survey.addController server declaration).2 = survey) ∧
      (∀ context declaring method discovery,
        let result := (server.readSteps context declaring method).run.run discovery
        (result = match server.readAction? context declaring method discovery with
          | none => (none, discovery)
          | some (action, later) => (some action, later)) ∧
        (result.1 = none → result.2 = discovery)) ∧
      (∀ declarations, ∀ controller ∈ (ofControllers server declarations).controllers,
        controller.actions ≠ []) ∧
      (∀ (survey : Survey) declaration,
        (survey.addController server declaration).1 = server.hasActions declaration) ∧
      ∀ declarations, ofControllers server (declarations.filter server.hasActions) =
        ofControllers server declarations := by
  refine ⟨?_, ?_, actions_ne_nil_ofControllers server, ?_, ofControllers_filter_hasActions server⟩
  · intro survey declaration omitted
    rw [fst_addController] at omitted
    rw [addController_of_no_actions omitted]
  · intro context declaring method discovery
    exact ⟨Server.run_readSteps, Server.readSteps_of_none⟩
  · intro survey declaration
    exact fst_addController

/-- A server with a class. -/
def diaryServer : Server where
  catalog := Catalog.empty |>.insert { name := "Page" }
  convention := .mvc

/-- A method with a route that says nothing about its verb, and takes a page. -/
def searchMethod : Method where
  name := "Search"
  attributes := [.route (some "search")]
  parameters := [{ name := "page", type := .named "Page" [] }]

/-- A controller without actions: what it has are a method without a route, one without a verb, and
one that is said not to be an action. -/
def searchController : Declaration where
  name := "SearchController"
  methods :=
    [{ name := "GetAll", returnType := .named "Page" [] }, searchMethod,
      { name := "Get", attributes := [.httpGet none, .nonAction], returnType := .named "Page" [] }]

/-- A controller with an action. -/
def diaryController : Declaration where
  name := "DiaryController"
  methods := [{ name := "Get", attributes := [.httpGet none], returnType := .named "Page" [] }]

theorem search_omitted_without_trace :
    (∀ survey : Survey, (survey.addController diaryServer searchController).1 = false ∧
        (survey.addController diaryServer searchController).2 = survey) ∧
      (∀ context discovery,
        ((diaryServer.readSteps context searchController searchMethod).run.run discovery).1 = none ∧
          ((diaryServer.readSteps context searchController searchMethod).run.run discovery).2 =
            discovery) ∧
      ∃ controller ∈ (ofControllers diaryServer [searchController, diaryController]).controllers,
        controller.actions ≠ [] := by
  rcases omitted_without_trace diaryServer with ⟨unchanged, steps, nonempty, kept, -⟩
  have noActions : diaryServer.hasActions searchController = false := by decide
  have noEndpoint : Server.endpoint? searchMethod = none := by decide
  have one : (ofControllers diaryServer [searchController, diaryController]).controllers.length =
      1 := by
    rw [length_controllers_ofControllers]
    decide
  refine ⟨?_, ?_, ?_⟩
  · intro survey
    have omitted := (kept survey searchController).trans noActions
    exact ⟨omitted, unchanged survey searchController omitted⟩
  · intro context discovery
    have rejected : ((diaryServer.readSteps context searchController searchMethod).run.run
        discovery).1 = none := by
      rw [(steps context searchController searchMethod discovery).1, Server.readAction?, noEndpoint]
      rfl
    exact ⟨rejected, (steps context searchController searchMethod discovery).2 rejected⟩
  · rcases List.length_eq_one_iff.mp one with ⟨controller, whole⟩
    have isRead := List.mem_singleton_self controller
    rw [← whole] at isRead
    exact ⟨controller, isRead, nonempty _ controller isRead⟩

end Survey

end ClientGen

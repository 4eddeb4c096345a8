import ClientGen.Proofs.Discovery.Reading
import ClientGen.Proofs.Model.Services

/-!
# What controllers are made of

The controller of a declaration, written with the names of classes. It depends on nothing but the
server: whatever was read before, reading a declaration gives this controller once names stand for
the references, and reading others afterwards does not change that.
-/

namespace ClientGen

namespace Server

variable (server : Server) (bindings : List (String × Bool)) (doc : Option MemberDoc)

/-! ### Outlines -/

/-- The parameter of an action for a declared one. -/
def outlineParameter (parameter : Parameter) : ActionParameter String :=
  let shape := server.catalog.memberShape parameter.nullable parameter.type
  let (position, isRequired) := server.bind bindings parameter shape
  { name := parameter.name, shape, isRequired, position
    documentation := doc.bind fun doc => Ordered.find? parameter.name doc.parameters
    constraints := .ofAttributes parameter.attributes }

/-- What an action returns. -/
def outlinePayload? (method : Method) : Option (Payload String) :=
  (server.payloadType? ((server.convention.returnOverride? method).getD method.returnType)).map
    fun type => ⟨server.catalog.memberShape false type, doc.bind (·.returns)⟩

/-- The action that a method is. -/
def outlineAction? (context : ControllerContext) (declaring : Declaration) (method : Method) :
    Option (Action String) :=
  (endpoint? method).map fun (verb, fragment) =>
    let route := Route.normalize context.routeStem fragment context.name method.name
    let doc := server.docs.methodDoc? declaring method
    { name := method.name, verb, route
      version := Route.version? route
      authorization :=
        if allowsAnonymous method.attributes then none
        else (authorization? method.attributes).or context.authorization
      documentation := doc.bind (·.summary)
      parameters := method.parameters.map (server.outlineParameter (Route.bindings route) doc)
      payload := server.outlinePayload? doc method
      controller := context.name }

/-- The actions among some methods. -/
def outlineActions (context : ControllerContext) (methods : List (Declaration × Method)) :
    List (Action String) :=
  methods.filterMap fun (declaring, method) =>
    if server.isRead method then server.outlineAction? context declaring method else none

/-- The controller of a declaration, if it has any actions. -/
def outlineController? (declaration : Declaration) : Option (Controller String) :=
  let context := Survey.contextOf server declaration
  let actions := server.outlineActions context (server.catalog.allMethods declaration)
  if actions.isEmpty then none
  else some
    { name := context.name
      documentation := server.docs.typeSummary? declaration.name
      actions }

theorem outlineActions_cons (context : ControllerContext) (declaring : Declaration)
    (method : Method) (methods : List (Declaration × Method)) :
    server.outlineActions context ((declaring, method) :: methods) =
      (if server.isRead method then server.outlineAction? context declaring method
        else none).toList ++ server.outlineActions context methods := by
  rw [outlineActions, List.filterMap_cons]
  simp only
  split
  · next skipped =>
    rw [skipped]
    rfl
  · next action found =>
    rw [found]
    rfl

/-! ### Reading gives the outlines -/

variable {server} {bindings} {doc} {version : Option String} {context : ControllerContext}
  {discovery : Discovery} {name? : ClassId → Option String}

/-- Where a parameter goes does not depend on which classes its shape refers to. -/
theorem bind_of_named? {parameter : Parameter} {shape : Shape ClassId} {result : Shape String}
    (named : shape.named? name? = some result) :
    server.bind bindings parameter result = server.bind bindings parameter shape := by
  cases shape
  simp only [Shape.named?, Option.bind_eq_bind, Option.bind_eq_some_iff, Option.some.injEq] at named
  rcases named with ⟨_, _, _, _, _, _, rfl⟩
  rfl

theorem named_readParameter (lawful : discovery.types.Lawful) (parameter : Parameter) :
    (server.readParameter version bindings doc parameter discovery).1.named?
        (server.readParameter version bindings doc parameter discovery).2.types.nameAt? =
      some (server.outlineParameter bindings doc parameter) := by
  have placed := Discovery.placed_resolve server [] version parameter.nullable parameter.type lawful
  have sameNames : (server.readParameter version bindings doc parameter discovery).2.types.nameAt? =
      (discovery.resolve server [] version parameter.nullable
        parameter.type).2.types.nameAt? := by
    simp only [readParameter]
    split
    · exact (Discovery.sameButLocks_makeWritable _ _).nameAt?
    · rfl
  rw [sameNames]
  simp only [outlineParameter, bind_of_named? placed.named]
  exact Option.map_eq_some_iff.mpr ⟨_, placed.named, rfl⟩

theorem named_readParameters (sound : Discovery.Sound server (· = []) discovery)
    (parameters : List Parameter) :
    (server.readParameters version bindings doc parameters discovery).1.mapM
        (ActionParameter.named?
          (server.readParameters version bindings doc parameters discovery).2.types.nameAt?) =
      some (parameters.map (server.outlineParameter bindings doc)) := by
  induction parameters generalizing discovery with
  | nil => rfl
  | cons parameter parameters ih =>
    have first := server.reads_readParameter version bindings doc sound.lawful parameter
    have soundThen := first.sound sound
    have others := server.reads_readParameters version bindings doc soundThen parameters
    rw [mapM_eq_some_iff_forall₂, List.map_cons]
    refine .cons ?_ (mapM_eq_some_iff_forall₂.mp (ih soundThen))
    exact ActionParameter.named?_mono (others.nameAt? soundThen.lawful)
      (named_readParameter sound.lawful parameter)

theorem named_readPayload (lawful : discovery.types.Lawful) (method : Method) :
    (server.readPayload version doc method discovery).1.mapM
        (Payload.named? (server.readPayload version doc method discovery).2.types.nameAt?) =
      some (server.outlinePayload? doc method) := by
  unfold readPayload outlinePayload?
  simp only
  split
  · next none =>
    rw [none]
    rfl
  · next type found =>
    have placed := Discovery.placed_resolve server [] version false type lawful
    rw [found]
    refine Option.map_eq_some_iff.mpr ⟨_, Option.map_eq_some_iff.mpr ⟨_, placed.named, rfl⟩, rfl⟩

/-- The parameters keep their names while the payload is read. -/
theorem named_readParts (sound : Discovery.Sound server (· = []) discovery) (method : Method) :
    let (parameters, between) :=
      server.readParameters version bindings doc method.parameters discovery
    let (payload, later) := server.readPayload version doc method between
    parameters.mapM (ActionParameter.named? later.types.nameAt?) =
        some (method.parameters.map (server.outlineParameter bindings doc)) ∧
      payload.mapM (Payload.named? later.types.nameAt?) =
        some (server.outlinePayload? doc method) := by
  have reads := server.reads_readParameters version bindings doc sound method.parameters
  have lawful := (reads.sound sound).lawful
  have others := server.reads_readPayload version doc
    (server.readParameters version bindings doc method.parameters discovery).2 method
  refine ⟨mapM_mono ?_ (named_readParameters sound method.parameters),
    named_readPayload lawful method⟩
  intro parameter outlined
  exact ActionParameter.named?_mono (others.nameAt? lawful)

theorem named_readAction? (sound : Discovery.Sound server (· = []) discovery) {method : Method}
    {declaring : Declaration} {action : Action ClassId} {later : Discovery}
    (read : server.readAction? context declaring method discovery = some (action, later)) :
    ∃ outlined, server.outlineAction? context declaring method = some outlined ∧
      action.named? later.types.nameAt? = some outlined := by
  simp only [readAction?, Option.bind_eq_bind, Option.bind_eq_some_iff, Option.some.injEq,
    Prod.mk.injEq] at read
  rcases read with ⟨⟨verb, fragment⟩, found, rfl, rfl⟩
  refine ⟨_, Option.map_eq_some_iff.mpr ⟨_, found, rfl⟩, ?_⟩
  simp only [Action.named?, Option.bind_eq_bind, Option.bind_eq_some_iff]
  exact ⟨_, (named_readParts sound method).1, _, (named_readParts sound method).2, rfl⟩

end Server

namespace Survey

open Discovery

variable {server : Server} {discovery : Discovery}

theorem named_readActions (context : ControllerContext)
    (sound : Discovery.Sound server (· = []) discovery)
    (methods : List (Declaration × Method)) :
    (readActions server context methods discovery).1.mapM
        (Action.named? (readActions server context methods discovery).2.types.nameAt?) =
      some (server.outlineActions context methods) := by
  induction methods generalizing discovery with
  | nil => rfl
  | cons first methods ih =>
    rcases first with ⟨declaring, method⟩
    by_cases isRead : server.isRead method = true
    · rcases readActions_of_read methods isRead with ⟨action, later, read, whole⟩
      have soundThen := (server.reads_readAction? sound read).sound sound
      have others := reads_readActions context soundThen methods
      rcases Server.named_readAction? sound read with ⟨outlined, isOutline, named⟩
      rw [whole, Server.outlineActions_cons, if_pos isRead, isOutline, mapM_eq_some_iff_forall₂]
      refine .cons ?_ (mapM_eq_some_iff_forall₂.mp (ih soundThen))
      exact Action.named?_mono (others.nameAt? soundThen.lawful) named
    · rw [readActions_of_not_read methods isRead, Server.outlineActions_cons, if_neg isRead]
      exact ih sound

theorem discovery_addController {survey : Survey} {declaration : Declaration} :
    (survey.addController server declaration).2.discovery =
      (readActions server (contextOf server declaration) (server.catalog.allMethods declaration)
        survey.discovery).2 := by
  simp only [addController]
  split <;> rfl

/-- Adding a declaration appends its controller, if it has any actions. -/
theorem exists_addController {survey : Survey}
    (sound : Discovery.Sound server (· = []) survey.discovery) (declaration : Declaration) :
    let result := survey.addController server declaration
    ∃ appended : Option (Controller ClassId),
      result.2.controllers = survey.controllers ++ appended.toList ∧
        result.1 = appended.isSome ∧
        appended.mapM (Controller.named? result.2.discovery.types.nameAt?) =
          some (server.outlineController? declaration) := by
  have actions := named_readActions (contextOf server declaration) sound
    (server.catalog.allMethods declaration)
  have sameEmpty := isEmpty_eq_of_forall₂ (mapM_eq_some_iff_forall₂.mp actions)
  simp only [addController, Server.outlineController?, ← sameEmpty]
  split
  · exact ⟨none, (List.append_nil _).symm, rfl, rfl⟩
  · refine ⟨some _, rfl, rfl, ?_⟩
    simp [Controller.named?, actions]

/-- Reading a controller leaves those alone that were read before. -/
theorem named_addController {survey : Survey} {outlined : List (Controller String)}
    (sound : Discovery.Sound server (· = []) survey.discovery)
    (named : survey.controllers.mapM (Controller.named? survey.discovery.types.nameAt?) =
      some outlined) (declaration : Declaration) :
    let later := (survey.addController server declaration).2
    later.controllers.mapM (Controller.named? later.discovery.types.nameAt?) =
      some (outlined ++ (server.outlineController? declaration).toList) := by
  intro later
  have reads := reads_readActions (contextOf server declaration) sound
    (server.catalog.allMethods declaration)
  have keepsNames := reads.nameAt? sound.lawful
  rw [← discovery_addController] at keepsNames
  have older := mapM_mono (fun _ _ => Controller.named?_mono keepsNames) named
  rcases exists_addController sound declaration with ⟨appended, controllers, -, appendedNamed⟩
  have newer := mapM_toList appendedNamed
  rw [mapM_eq_some_iff_forall₂] at older newer ⊢
  rw [controllers]
  exact List.rel_append older newer

/-- The controllers of a survey are those of its declarations, in their order. -/
theorem named_ofControllers (server : Server) (declarations : List Declaration) :
    let survey := ofControllers server declarations
    survey.controllers.mapM (Controller.named? survey.discovery.types.nameAt?) =
      some (declarations.filterMap server.outlineController?) := by
  induction declarations using List.reverseRecOn with
  | nil => rfl
  | append_singleton declarations declaration ih =>
    have last : [declaration].filterMap server.outlineController? =
        (server.outlineController? declaration).toList := by
      rw [List.filterMap_cons, List.filterMap_nil]
      cases server.outlineController? declaration <;> rfl
    rw [ofControllers_concat, List.filterMap_append, last]
    exact named_addController (sound_discovery_ofControllers server declarations) ih declaration

/-! ### Results -/

/-- Controllers do not interfere. Whichever declarations were read before, adding another one leaves
their controllers in place and appends the same controller as it does to an empty survey, or none
there and here: under the names of the classes each is the one that the server alone makes of the
declaration. -/
theorem addController_regardless_of_history (server : Server) (before : List Declaration)
    (declaration : Declaration) :
    let survey := ofControllers server before
    let later := survey.addController server declaration
    let first := ({} : Survey).addController server declaration
    later.1 = first.1 ∧
      ∃ appended alone : Option (Controller ClassId),
        later.2.controllers = survey.controllers ++ appended.toList ∧
        first.2.controllers = alone.toList ∧
        later.1 = appended.isSome ∧
        appended.mapM (Controller.named? later.2.discovery.types.nameAt?) =
          some (server.outlineController? declaration) ∧
        alone.mapM (Controller.named? first.2.discovery.types.nameAt?) =
          some (server.outlineController? declaration) := by
  intro survey later first
  have sound := sound_discovery_ofControllers server before
  have soundFirst : Discovery.Sound server (· = []) ({} : Survey).discovery := .empty
  rcases exists_addController sound declaration with ⟨appended, controllers, added, named⟩
  rcases exists_addController soundFirst declaration with
    ⟨alone, firstControllers, addedFirst, firstNamed⟩
  have sameAnswer : appended.isSome = alone.isSome := by
    rw [isSome_eq_of_mapM named, isSome_eq_of_mapM firstNamed]
  exact ⟨added.trans (sameAnswer.trans addedFirst.symm), appended, alone, controllers,
    firstControllers, added, named, firstNamed⟩

end Survey

end ClientGen

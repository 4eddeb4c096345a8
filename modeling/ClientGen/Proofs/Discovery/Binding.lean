import ClientGen.Proofs.Discovery.Reading
import ClientGen.Proofs.Route.Placeholder

/-!
# What goes into the path

A parameter goes into the path of a request exactly if a placeholder of the route has its name in
lower case. That holds for every action, whatever else was read before it.
-/

namespace ClientGen

/-- Whether the parameters in the path are those that have the name of a placeholder of the route,
in lower case. -/
def Action.BindsPath {ρ : Type} (action : Action ρ) : Prop :=
  ∀ parameter ∈ action.parameters, parameter.position = .path ↔
    ∃ placeholder ∈ Route.placeholders action.route,
      Text.lower placeholder.name = Text.lower parameter.name

theorem Route.isSome_bindings_iff {route key : String} :
    (Ordered.find? key (bindings route)).isSome ↔
      ∃ placeholder ∈ placeholders route, Text.lower placeholder.name = key := by
  rw [Ordered.isSome_find?_iff, bindings, Ordered.mem_keys_ofList, List.map_map, List.mem_map]
  rfl

namespace Server

variable {server : Server} {bindings : List (String × Bool)} {version : Option String}
  {doc : Option MemberDoc} {context : ControllerContext} {discovery : Discovery}

theorem bind_eq_path_iff {ρ : Type} {parameter : Parameter} {shape : Shape ρ} :
    (server.bind bindings parameter shape).1 = .path ↔
      (Ordered.find? (Text.lower parameter.name) bindings).isSome := by
  unfold bind
  split
  · next found => simp [found]
  · next missing =>
    rw [missing]
    dsimp only
    split
    · simp
    · split <;> simp

theorem readParameters_binds (parameters : List Parameter) :
    ∀ parameter ∈ (server.readParameters version bindings doc parameters discovery).1,
      parameter.position = .path ↔
        (Ordered.find? (Text.lower parameter.name) bindings).isSome := by
  induction parameters generalizing discovery with
  | nil => exact fun _ among => nomatch among
  | cons parameter parameters ih =>
    rw [readParameters, List.forall_mem_cons]
    exact ⟨bind_eq_path_iff, ih⟩

theorem names_readParameters (parameters : List Parameter) :
    (server.readParameters version bindings doc parameters discovery).1.map (·.name) =
      parameters.map (·.name) := by
  induction parameters generalizing discovery with
  | nil => rfl
  | cons parameter parameters ih =>
    rw [readParameters, List.map_cons, List.map_cons, ih]
    rfl

variable {declaring : Declaration} {method : Method} {action : Action ClassId} {later : Discovery}

theorem bindsPath_of_readAction?
    (read : server.readAction? context declaring method discovery = some (action, later)) :
    action.BindsPath := by
  simp only [readAction?, Option.bind_eq_bind, Option.bind_eq_some_iff, Option.some.injEq,
    Prod.mk.injEq] at read
  rcases read with ⟨⟨verb, fragment⟩, -, rfl, -⟩
  intro parameter among
  rw [← Route.isSome_bindings_iff]
  exact readParameters_binds method.parameters parameter among

theorem names_of_readAction?
    (read : server.readAction? context declaring method discovery = some (action, later)) :
    action.parameters.map (·.name) = method.parameters.map (·.name) := by
  simp only [readAction?, Option.bind_eq_bind, Option.bind_eq_some_iff, Option.some.injEq,
    Prod.mk.injEq] at read
  rcases read with ⟨⟨verb, fragment⟩, -, rfl, -⟩
  exact names_readParameters method.parameters

end Server

namespace Survey

variable {server : Server} {discovery : Discovery}

theorem bindsPath_readActions (context : ControllerContext)
    (methods : List (Declaration × Method)) :
    ∀ action ∈ (readActions server context methods discovery).1, action.BindsPath := by
  induction methods generalizing discovery with
  | nil => exact fun _ among => nomatch among
  | cons first methods ih =>
    rcases first with ⟨declaring, method⟩
    by_cases isRead : server.isRead method = true
    · rcases readActions_of_read methods isRead with ⟨action, later, read, whole⟩
      rw [whole, List.forall_mem_cons]
      exact ⟨Server.bindsPath_of_readAction? read, ih⟩
    · rw [readActions_of_not_read methods isRead]
      exact ih

theorem bindsPath_addController {survey : Survey}
    (before : ∀ controller ∈ survey.controllers, ∀ action ∈ controller.actions, action.BindsPath)
    (declaration : Declaration) :
    ∀ controller ∈ (survey.addController server declaration).2.controllers,
      ∀ action ∈ controller.actions, action.BindsPath := by
  have new : ∀ action ∈ (readActions server (contextOf server declaration)
      (server.catalog.allMethods declaration) survey.discovery).1, action.BindsPath :=
    bindsPath_readActions _ _
  simp only [addController]
  split
  · exact before
  · rw [List.forall_mem_append, List.forall_mem_singleton]
    exact ⟨before, new⟩

/-- In every action of a survey the placeholders decide which parameters go into the path. -/
theorem bindsPath_ofControllers (declarations : List Declaration) :
    ∀ controller ∈ (ofControllers server declarations).controllers,
      ∀ action ∈ controller.actions, action.BindsPath := by
  induction declarations using List.reverseRecOn with
  | nil => exact fun _ among => nomatch among
  | append_singleton declarations declaration ih =>
    rw [ofControllers_concat]
    exact bindsPath_addController ih declaration

end Survey

end ClientGen

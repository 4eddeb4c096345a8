import ClientGen.Model.Service
import ClientGen.Proofs.Model.Naming

/-!
# Names in controllers

What the shapes in a controller mean by themselves, with the names of the classes in place of the
references. It stays the same while the table of classes grows.
-/

namespace ClientGen

variable {ρ σ : Type} {name? later? : ρ → Option σ}

/-- The parameter with the name of every reference, if all of them have one. -/
def ActionParameter.named? (name? : ρ → Option σ) (parameter : ActionParameter ρ) :
    Option (ActionParameter σ) :=
  (parameter.shape.named? name?).map fun shape => { parameter with shape }

/-- The payload with the name of every reference, if all of them have one. -/
def Payload.named? (name? : ρ → Option σ) (payload : Payload ρ) : Option (Payload σ) :=
  (payload.shape.named? name?).map fun shape => { payload with shape }

/-- The action with the name of every reference, if all of them have one. -/
def Action.named? (name? : ρ → Option σ) (action : Action ρ) : Option (Action σ) := do
  let parameters ← action.parameters.mapM (ActionParameter.named? name?)
  let payload ← action.payload.mapM (Payload.named? name?)
  some { action with parameters, payload }

/-- The controller with the name of every reference, if all of them have one. -/
def Controller.named? (name? : ρ → Option σ) (controller : Controller ρ) :
    Option (Controller σ) :=
  (controller.actions.mapM (Action.named? name?)).map fun actions => { controller with actions }

theorem ActionParameter.shape_of_named? {parameter : ActionParameter ρ}
    {result : ActionParameter σ} (named : parameter.named? name? = some result) :
    result.position = parameter.position ∧ parameter.shape.named? name? = some result.shape := by
  rcases Option.map_eq_some_iff.mp named with ⟨shape, shapeNamed, rfl⟩
  exact ⟨rfl, shapeNamed⟩

theorem Action.parameters_of_named? {action : Action ρ} {result : Action σ}
    (named : action.named? name? = some result) :
    List.Forall₂ (fun parameter outlined => parameter.named? name? = some outlined)
      action.parameters result.parameters := by
  simp only [named?, Option.bind_eq_bind, Option.bind_eq_some_iff, Option.some.injEq] at named
  rcases named with ⟨parameters, parametersNamed, _, _, rfl⟩
  exact mapM_eq_some_iff_forall₂.mp parametersNamed

theorem Controller.actions_of_named? {controller : Controller ρ} {result : Controller σ}
    (named : controller.named? name? = some result) :
    List.Forall₂ (fun action outlined => action.named? name? = some outlined)
      controller.actions result.actions := by
  rcases Option.map_eq_some_iff.mp named with ⟨actions, actionsNamed, rfl⟩
  exact mapM_eq_some_iff_forall₂.mp actionsNamed

/-! ### What is sent -/

/-- The shapes of the parameters that are sent in the body of a request. -/
def sentShapes (parameters : List (ActionParameter ρ)) : List (Shape ρ) :=
  (parameters.filter fun parameter => parameter.position = .body).map (·.shape)

/-- The shapes that some controllers are sent in the bodies of requests. -/
def bodyShapes (controllers : List (Controller ρ)) : List (Shape ρ) :=
  controllers.flatMap fun controller => controller.actions.flatMap fun action =>
    sentShapes action.parameters

theorem sentShapes_cons (parameter : ActionParameter ρ) (parameters : List (ActionParameter ρ)) :
    sentShapes (parameter :: parameters) = sentShapes [parameter] ++ sentShapes parameters := by
  simp only [sentShapes, ← List.map_append, ← List.filter_append, List.singleton_append]

theorem mem_bodyShapes_iff {controllers : List (Controller ρ)} {shape : Shape ρ} :
    shape ∈ bodyShapes controllers ↔ ∃ controller ∈ controllers, ∃ action ∈ controller.actions,
      ∃ parameter ∈ action.parameters, parameter.position = .body ∧ parameter.shape = shape := by
  simp only [bodyShapes, sentShapes, List.mem_flatMap, List.mem_map, List.mem_filter,
    decide_eq_true_eq, and_assoc]

theorem forall₂_sentShapes {parameters : List (ActionParameter ρ)}
    {results : List (ActionParameter σ)}
    (named : List.Forall₂ (fun parameter outlined => parameter.named? name? = some outlined)
      parameters results) :
    List.Forall₂ (fun shape outlined => shape.named? name? = some outlined)
      (sentShapes parameters) (sentShapes results) := by
  induction named with
  | nil => exact .nil
  | @cons parameter outlined parameters results parameterNamed _ ih =>
    rcases ActionParameter.shape_of_named? parameterNamed with ⟨samePosition, shapeNamed⟩
    rw [sentShapes_cons, sentShapes_cons outlined]
    refine List.rel_append ?_ ih
    by_cases inBody : parameter.position = .body
    · simp only [sentShapes, samePosition, inBody, decide_true, List.filter_cons_of_pos,
        List.filter_nil, List.map_cons, List.map_nil]
      exact .cons shapeNamed .nil
    · simp only [sentShapes, samePosition, inBody, decide_false, Bool.false_eq_true,
        not_false_eq_true, List.filter_cons_of_neg, List.filter_nil, List.map_nil]
      exact .nil

theorem forall₂_bodyShapes {controllers : List (Controller ρ)} {results : List (Controller σ)}
    (named : controllers.mapM (Controller.named? name?) = some results) :
    List.Forall₂ (fun shape outlined => shape.named? name? = some outlined)
      (bodyShapes controllers) (bodyShapes results) := by
  refine List.rel_flatMap (mapM_eq_some_iff_forall₂.mp named) ?_
  intro controller outlined controllerNamed
  refine List.rel_flatMap (Controller.actions_of_named? controllerNamed) ?_
  intro action outlinedAction actionNamed
  exact forall₂_sentShapes (Action.parameters_of_named? actionNamed)

/-! ### Growth -/

section Mono

variable (keeps : ∀ reference name, name? reference = some name → later? reference = some name)

include keeps

theorem ActionParameter.named?_mono {parameter : ActionParameter ρ} {result : ActionParameter σ}
    (named : parameter.named? name? = some result) : parameter.named? later? = some result := by
  rcases Option.map_eq_some_iff.mp named with ⟨shape, shapeNamed, rfl⟩
  simp [named?, Shape.named?_mono keeps _ shapeNamed]

theorem Payload.named?_mono {payload : Payload ρ} {result : Payload σ}
    (named : payload.named? name? = some result) : payload.named? later? = some result := by
  rcases Option.map_eq_some_iff.mp named with ⟨shape, shapeNamed, rfl⟩
  simp [named?, Shape.named?_mono keeps _ shapeNamed]

theorem Payload.mapM_named?_mono {payload : Option (Payload ρ)} {result : Option (Payload σ)}
    (named : payload.mapM (Payload.named? name?) = some result) :
    payload.mapM (Payload.named? later?) = some result := by
  cases payload with
  | none => exact named
  | some payload =>
    rcases Option.map_eq_some_iff.mp named with ⟨own, ownNamed, rfl⟩
    exact Option.map_eq_some_iff.mpr ⟨own, named?_mono keeps ownNamed, rfl⟩

theorem Action.named?_mono {action : Action ρ} {result : Action σ}
    (named : action.named? name? = some result) : action.named? later? = some result := by
  simp only [named?, Option.bind_eq_bind, Option.bind_eq_some_iff, Option.some.injEq] at named ⊢
  rcases named with ⟨parameters, parametersNamed, payload, payloadNamed, rfl⟩
  exact ⟨parameters, mapM_mono (fun _ _ => ActionParameter.named?_mono keeps) parametersNamed,
    payload, Payload.mapM_named?_mono keeps payloadNamed, rfl⟩

theorem Controller.named?_mono {controller : Controller ρ} {result : Controller σ}
    (named : controller.named? name? = some result) : controller.named? later? = some result := by
  rcases Option.map_eq_some_iff.mp named with ⟨actions, actionsNamed, rfl⟩
  exact Option.map_eq_some_iff.mpr
    ⟨actions, mapM_mono (fun _ _ => Action.named?_mono keeps) actionsNamed, rfl⟩

end Mono

end ClientGen

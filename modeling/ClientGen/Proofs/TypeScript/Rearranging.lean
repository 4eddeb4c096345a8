import ClientGen.Proofs.TypeScript.Modules
import ClientGen.Proofs.TypeScript.Overloads

/-!
# Controllers and actions in another order

A client goes through the controllers in the order of their names, and through the actions of each
in the order in which they are numbered. So the client of a model is that of the model in which
both are arranged in this way. Names that are distinct, and actions that are told apart by name and
number of parameters, can be arranged in one way only; therefore it makes no difference to the
client in which order a model has them.
-/

namespace ClientGen

variable {ρ : Type}

/-- What the order of two actions is told by. -/
def Action.overload (action : Action ρ) : String × Nat :=
  (action.name, action.parameters.length)

/-- Whether a controller has the actions of another one in any order. -/
structure Controller.Rearranged (controller other : Controller ρ) : Prop where
  name : other.name = controller.name
  documentation : other.documentation = controller.documentation
  actions : controller.actions.Perm other.actions

/-- Whether a model has the controllers of another one in any order, each with its actions in any
order, and the same classes. -/
structure ServiceModel.Rearranged (model other : ServiceModel ρ) : Prop where
  controllers : ∃ controllers, model.controllers.Perm controllers ∧
    List.Forall₂ Controller.Rearranged controllers other.controllers
  types : other.types = model.types

/-- The controller with its actions in the order in which they are numbered. -/
def Controller.arranged (controller : Controller ρ) : Controller ρ :=
  { controller with actions := controller.ordered }

/-- The model with the controllers in the order of their names, each with its actions in the order
in which they are numbered. -/
def ServiceModel.arranged (model : ServiceModel ClassId) : ServiceModel ClassId :=
  { model with controllers := (TypeScript.orderedControllers model).map Controller.arranged }

/-! ### One arrangement -/

theorem Action.overload_eq_of_precedes {first second : Action ρ}
    (precedes : first.precedes second = true) (converse : second.precedes first = true) :
    first.overload = second.overload := by
  have sameName : first.name = second.name :=
    le_antisymm (Action.name_le_of_precedes precedes) (Action.name_le_of_precedes converse)
  simp only [Action.precedes, sameName, beq_self_eq_true, if_true, decide_eq_true_eq]
    at precedes converse
  rw [Action.overload, Action.overload, sameName, le_antisymm precedes converse]

namespace Controller

variable {controller other : Controller ρ}

theorem pairwise_precedes (controller : Controller ρ) :
    controller.ordered.Pairwise fun first second => first.precedes second = true :=
  List.pairwise_mergeSort Action.precedes_trans Action.precedes_total controller.actions

theorem ordered_eq_of_perm (perm : controller.actions.Perm other.actions)
    (apart : (controller.actions.map Action.overload).Nodup) :
    controller.ordered = other.ordered := by
  have sameActions : controller.ordered.Perm other.ordered :=
    controller.ordered_perm.trans (perm.trans other.ordered_perm.symm)
  refine sameActions.eq_of_pairwise ?_ controller.pairwise_precedes other.pairwise_precedes
  intro first second among amongOther precedes converse
  have isFirst := controller.ordered_perm.mem_iff.mp among
  have isSecond := controller.ordered_perm.mem_iff.mp (sameActions.mem_iff.mpr amongOther)
  exact List.inj_on_of_nodup_map apart isFirst isSecond
    (Action.overload_eq_of_precedes precedes converse)

theorem arranged_eq_of_rearranged (rearranged : controller.Rearranged other)
    (apart : (controller.actions.map Action.overload).Nodup) :
    controller.arranged = other.arranged := by
  rw [arranged, arranged, ordered_eq_of_perm rearranged.actions apart]
  cases controller
  cases other
  cases rearranged.name
  cases rearranged.documentation
  rfl

theorem map_arranged_of_forall₂ {controllers others : List (Controller ρ)}
    (rearranged : List.Forall₂ Controller.Rearranged controllers others)
    (apart : ∀ controller ∈ controllers, (controller.actions.map Action.overload).Nodup) :
    controllers.map arranged = others.map arranged := by
  induction rearranged with
  | nil => rfl
  | cons first _ ih =>
    rw [List.forall_mem_cons] at apart
    rw [List.map_cons, List.map_cons, arranged_eq_of_rearranged first apart.1, ih apart.2]

@[simp]
theorem name_arranged (controller : Controller ρ) : controller.arranged.name = controller.name :=
  rfl

theorem ordered_arranged (controller : Controller ρ) :
    controller.arranged.ordered = controller.ordered :=
  List.mergeSort_of_pairwise controller.pairwise_precedes

theorem uniqueNames_arranged (controller : Controller ρ) :
    controller.arranged.uniqueNames = controller.uniqueNames := by
  have numbered (controller : Controller ρ) : controller.uniqueNames =
      numberActions controller.ordered none 0 controller.ordered := rfl
  rw [numbered, numbered, ordered_arranged]

end Controller

namespace TypeScript

variable {model other : ServiceModel ClassId}

theorem pairwise_orderedControllers (model : ServiceModel ClassId) :
    (orderedControllers model).Pairwise fun first second => first.name ≤ second.name := by
  have sorted : (orderedControllers model).Pairwise fun first second =>
      decide (first.name ≤ second.name) = true := by
    apply List.pairwise_mergeSort
    · intro first second third before behind
      simp only [decide_eq_true_eq] at before behind ⊢
      exact le_trans before behind
    · intro first second
      simp only [Bool.or_eq_true, decide_eq_true_eq]
      exact le_total _ _
  exact sorted.imp of_decide_eq_true

theorem orderedControllers_arranged (model : ServiceModel ClassId) :
    orderedControllers model.arranged = (orderedControllers model).map Controller.arranged := by
  apply List.mergeSort_of_pairwise
  simp only [decide_eq_true_eq]
  exact List.pairwise_map.mpr (pairwise_orderedControllers model)

theorem arranged_eq_of_rearranged (rearranged : model.Rearranged other)
    (distinct : (model.controllers.map (·.name)).Nodup)
    (apart : ∀ controller ∈ model.controllers, (controller.actions.map Action.overload).Nodup) :
    (orderedControllers model).map Controller.arranged =
      (orderedControllers other).map Controller.arranged := by
  rcases rearranged.controllers with ⟨controllers, perm, forall₂⟩
  have sameControllers := Controller.map_arranged_of_forall₂ forall₂ fun controller among =>
    apart controller (perm.mem_iff.mpr among)
  have arrangedPerm : ((orderedControllers model).map Controller.arranged).Perm
      ((orderedControllers other).map Controller.arranged) := by
    have ofModel := (Options.orderedControllers_perm model).trans perm
    have ofOther := (Options.orderedControllers_perm other).map Controller.arranged
    rw [← sameControllers] at ofOther
    exact (ofModel.map Controller.arranged).trans ofOther.symm
  have sorted (model : ServiceModel ClassId) :
      ((orderedControllers model).map Controller.arranged).Pairwise
        fun first second => first.name ≤ second.name :=
    List.pairwise_map.mpr (pairwise_orderedControllers model)
  refine arrangedPerm.eq_of_pairwise ?_ (sorted model) (sorted other)
  intro first second among amongOther before behind
  have names : (((orderedControllers model).map Controller.arranged).map (·.name)).Nodup := by
    rw [List.map_map]
    exact ((Options.orderedControllers_perm model).map _).nodup_iff.mpr distinct
  exact List.inj_on_of_nodup_map names among (arrangedPerm.mem_iff.mpr amongOther)
    (le_antisymm before behind)

/-! ### The client of an arranged model -/

theorem writeController_arranged (writer : ActionWriter) (controller : Controller ClassId) :
    writer.writeController controller.arranged = writer.writeController controller := by
  rw [ActionWriter.writeController, ActionWriter.writeController, Controller.uniqueNames_arranged]
  rfl

namespace Options

variable (options : Options) (model)

theorem controllerDraft_arranged (controller : Controller ClassId) :
    options.controllerDraft model.arranged controller.arranged =
      options.controllerDraft model controller := by
  have sameScope : options.controllerScope model.arranged = options.controllerScope model := rfl
  simp only [controllerDraft, sameScope, writeController_arranged]
  rfl

theorem factory_arranged (controllers : List (Controller ClassId))
    {classOf : Controller ClassId → String}
    (byName : ∀ controller, classOf controller.arranged = classOf controller) :
    factory (controllers.map Controller.arranged) classOf = factory controllers classOf := by
  simp only [factory, List.map_map, Function.comp_def, byName, Controller.name_arranged]

theorem servicesDraft_arranged :
    options.servicesDraft model.arranged = options.servicesDraft model := by
  simp only [servicesDraft, orderedControllers_arranged, List.map_map]
  rw [factory_arranged]
  · rfl
  · exact fun _ => rfl

theorem writeSingle_arranged : options.writeSingle model.arranged = options.writeSingle model := by
  have sameScope : options.singleScope model.arranged = options.singleScope model := rfl
  simp only [writeSingle, sameScope, orderedControllers_arranged, Writing.each_map,
    Function.comp_def, writeController_arranged]
  rw [factory_arranged]
  exact fun _ => rfl

theorem singleDraft_arranged : options.singleDraft model.arranged = options.singleDraft model := by
  have sameScope : options.singleScope model.arranged = options.singleScope model := rfl
  have sameTypes : model.arranged.types = model.types := rfl
  simp only [singleDraft, sameScope, sameTypes, writeSingle_arranged]

theorem drafts_arranged : options.drafts model.arranged = options.drafts model := by
  have sameDrafts : (fun controller : Controller ClassId =>
      options.controllerDraft model.arranged controller.arranged) =
      options.controllerDraft model := by
    funext controller
    exact options.controllerDraft_arranged model controller
  unfold drafts
  split
  · rw [singleDraft_arranged]
  · rw [orderedControllers_arranged, List.map_map, Function.comp_def, sameDrafts,
      servicesDraft_arranged]
    rfl

/-- The client of a model is that of the model with everything in the order in which it is
written. -/
theorem client_arranged : options.client model.arranged = options.client model := by
  rw [client, client, drafts_arranged]

variable {model}

/-- If the controllers of a model have distinct names, and no two actions of a controller have both
their name and their number of parameters in common, then every other order of the controllers, and
of the actions in each, leads to the same client: to modules of the same names and texts in the same
order, and to the same failure if there is one. -/
theorem client_of_rearranged (rearranged : model.Rearranged other)
    (distinct : (model.controllers.map (·.name)).Nodup)
    (apart : ∀ controller ∈ model.controllers, (controller.actions.map Action.overload).Nodup) :
    options.client other = options.client model := by
  have same : { model.arranged with nameClashes := [] } =
      { other.arranged with nameClashes := [] } := by
    simp only [ServiceModel.arranged, arranged_eq_of_rearranged rearranged distinct apart,
      rearranged.types]
  have regardless (model : ServiceModel ClassId) :
      options.client { model with nameClashes := [] } = options.client model := rfl
  rw [← client_arranged, ← regardless, ← same, regardless, client_arranged]

/-- An action with a number of parameters. -/
def taking (name : String) (count : Nat) : Action ClassId where
  name
  verb := .get
  route := "sales"
  parameters := (List.range count).map fun place =>
    { name := "value" ++ toString place, shape := { kind := .int }, isRequired := true
      position := .query }
  controller := "Sales"

/-- Two controllers, one of which has overloads. -/
def salesModel : ServiceModel ClassId where
  controllers := [⟨"Sales", none, [taking "Get" 2, taking "Add" 1, taking "Get" 0]⟩,
    ⟨"Goods", none, [taking "Get" 0]⟩]
  types := {}

/-- The same with the controllers and the actions in another order. -/
def salesModelRearranged : ServiceModel ClassId where
  controllers := [⟨"Goods", none, [taking "Get" 0]⟩,
    ⟨"Sales", none, [taking "Get" 0, taking "Get" 2, taking "Add" 1]⟩]
  types := {}

theorem client_of_rearranged_sales :
    salesModel.Rearranged salesModelRearranged ∧
      (salesModel.controllers.map (·.name)).Nodup ∧
      (∀ controller ∈ salesModel.controllers,
        (controller.actions.map Action.overload).Nodup) ∧
      Options.client { bundling := .single, observable := true } salesModelRearranged =
        Options.client { bundling := .single, observable := true } salesModel := by
  have overloads : [taking "Get" 2, taking "Add" 1, taking "Get" 0].Perm
      [taking "Get" 0, taking "Get" 2, taking "Add" 1] :=
    @List.perm_append_comm _ [taking "Get" 2, taking "Add" 1] [taking "Get" 0]
  have rearranged : salesModel.Rearranged salesModelRearranged :=
    ⟨⟨_, .swap _ _ _, .cons ⟨rfl, rfl, .refl _⟩ (.cons ⟨rfl, rfl, overloads⟩ .nil)⟩, rfl⟩
  have distinct : (salesModel.controllers.map (·.name)).Nodup := by decide
  have apart : ∀ controller ∈ salesModel.controllers,
      (controller.actions.map Action.overload).Nodup := by decide
  exact ⟨rearranged, distinct, apart, client_of_rearranged _ rearranged distinct apart⟩

end Options

end TypeScript

end ClientGen

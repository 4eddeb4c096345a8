import ClientGen.TypeScript.Client
import ClientGen.Proofs.TypeScript.Classes

/-!
# Clients of valid models

Every type that stands in a client is the type of a shape of the model, with or without its
outermost layer, or the name of a class of the table. So all that a draft is made of is good if its
scope grants this for the shapes. If the model is valid, the scopes of all modules cover the shapes;
so no draft has a gap, and all modules are written.
-/

namespace ClientGen

/-! ### Numbered actions -/

theorem mem_of_mem_numberActions {ρ : Type} {ordered actions : List (Action ρ)}
    {current : Option String} {index : Nat} {named : String × Action ρ}
    (among : named ∈ numberActions ordered current index actions) : named.2 ∈ actions := by
  induction actions generalizing current index with
  | nil => cases among
  | cons action actions ih =>
    rw [numberActions, List.mem_cons] at among
    rcases among with rfl | later
    · exact List.mem_cons_self
    · exact List.mem_cons_of_mem _ (ih later)

/-- The actions with names for the client are those of the controller. -/
theorem Controller.mem_of_mem_uniqueNames {ρ : Type} {controller : Controller ρ}
    {named : String × Action ρ} (among : named ∈ controller.uniqueNames) :
    named.2 ∈ controller.actions :=
  List.mem_mergeSort.mp (mem_of_mem_numberActions among)

namespace TypeScript

open Code Scope

variable {good : ClientType → Prop}

/-! ### Controllers -/

namespace ActionWriter

variable {writer : ActionWriter} {action : Action ClassId} {controller : Controller ClassId}

theorem mem_of_mem_declared {parameter : ActionParameter ClassId}
    (among : parameter ∈ writer.declared action) : parameter ∈ action.parameters := by
  unfold declared at among
  split at among
  · exact among
  · rcases List.mem_append.mp among with required | others
    · exact (List.mem_filter.mp required).1
    · exact (List.mem_filter.mp others).1

theorem madeOf_declaration {parameter : ActionParameter ClassId}
    (grants : writer.scope.Grants good parameter.shape) :
    (writer.declaration parameter).MadeOf good := by
  have typeMade := grants.typeOf writer.scope.observable
  rw [declaration_eq]
  cases mark : parameter.isRequired <;> simp [typeMade]

theorem madeOf_signature (grants : ∀ shape ∈ action.shapes, writer.scope.Grants good shape) :
    (writer.signature action).MadeOf good := by
  have declarationsMade : AllMadeOf good ((writer.declared action).map writer.declaration) := by
    rw [allMadeOf_map]
    intro parameter among
    have shapeAmong : parameter.shape ∈ action.shapes :=
      List.mem_append_left _ (List.mem_map.mpr ⟨parameter, mem_of_mem_declared among, rfl⟩)
    exact madeOf_declaration (grants parameter.shape shapeAmong)
  rw [signature_eq]
  split
  · exact madeOf_nil
  · exact madeOf_join.mpr declarationsMade
  · simpa using madeOf_join.mpr declarationsMade

theorem madeOf_path : (writer.path action).MadeOf good := by
  unfold path
  split
  · rw [madeOf_row, allMadeOf_cons, allMadeOf_cons, madeOf_flatMap]
    refine ⟨by simp, ?_, by simp⟩
    intro piece _
    cases piece <;> simp [value]
  · simp

theorem madeOf_queryField (parameter : ActionParameter ClassId) :
    (writer.queryField parameter).MadeOf good := by
  simp only [queryField]
  split <;> simp [value]

theorem madeOf_query : (writer.query action).MadeOf good := by
  unfold query
  split
  · exact madeOf_nil
  · simp [madeOf_join, madeOf_queryField]

theorem madeOf_body : (writer.body action).MadeOf good := by
  unfold body
  split
  · simp
  · simp only
    split <;> simp [value]

theorem madeOf_rewrap {shape : Shape ClassId} (grants : writer.scope.Grants good shape) :
    (writer.rewrap shape).MadeOf good := by
  rw [rewrap_eq]
  split
  · next type wrapped _ => simp [grants.wrapper? wrapped]
  · next type wrapped _ => simp [grants.wrapper? wrapped]
  · simp

theorem madeOf_request (grants : ∀ shape ∈ action.shapes, writer.scope.Grants good shape) :
    (writer.request action).MadeOf good := by
  rw [request_eq]
  simp only
  split
  · simp [madeOf_path, madeOf_query, madeOf_body]
  · next payload returned =>
    have payloadGrants : writer.scope.Grants good payload.shape :=
      grants payload.shape (by simp [Action.shapes, returned])
    simp [madeOf_path, madeOf_query, madeOf_body, madeOf_rewrap payloadGrants,
      payloadGrants.typeOf false]

theorem allMadeOf_commentLines (action : Action ClassId) :
    AllMadeOf good (commentLines action) := by
  simp [commentLines]

theorem allMadeOf_comment (action : Action ClassId) : AllMadeOf good (comment action) := by
  have linesMade : AllMadeOf good (commentLines action) := allMadeOf_commentLines action
  unfold comment
  split
  · exact allMadeOf_nil
  · have starredMade : AllMadeOf good ((commentLines action).map fun line =>
        .text " * " :: line) := by
      rw [allMadeOf_map]
      intro line among
      exact madeOf_text.mpr (linesMade line among)
    simp [starredMade]

theorem allMadeOf_function (name : String)
    (grants : ∀ shape ∈ action.shapes, writer.scope.Grants good shape) :
    AllMadeOf good (writer.function name action) := by
  rw [function_eq, allMadeOf_map_indent]
  simp [allMadeOf_comment, madeOf_signature grants, madeOf_request grants]

theorem allMadeOf_controllerClass
    (grants : ∀ action ∈ controller.actions, ∀ shape ∈ action.shapes,
      writer.scope.Grants good shape) :
    AllMadeOf good (writer.controllerClass controller) := by
  have functionsMade : ∀ named ∈ controller.uniqueNames,
      AllMadeOf good (writer.function (QualifiedName.camelCase named.1) named.2) := by
    intro named among
    exact allMadeOf_function _ (grants named.2 (Controller.mem_of_mem_uniqueNames among))
  rw [controllerClass_eq]
  simpa using functionsMade

end ActionWriter

/-! ### Drafts -/

theorem failures_eq_nil_iff {draft : Draft} :
    draft.failures = [] ↔ AllMadeOf ClientType.IsWhole draft.lines := by
  rw [Draft.failures, List.flatMap_eq_nil_iff]
  exact forall₂_congr fun _ _ => Code.failures_eq_nil_iff

theorem madeOf_importAs (name module : String) : (importAs name module).MadeOf good := by
  simp [importAs]

theorem madeOf_header : MadeOf good header := by
  simp [header]

theorem allMadeOf_factory (controllers : List (Controller ClassId))
    (classOf : Controller ClassId → String) : AllMadeOf good (factory controllers classOf) := by
  simp [factory]

namespace Options

variable (options : Options) {model : ServiceModel ClassId} {scope : Scope}

theorem allMadeOf_provide (dependencies : Dependencies) :
    AllMadeOf good (options.provide dependencies) := by
  have importsMade (helper : Helper) : AllMadeOf good (options.importHelper helper) := by
    cases helper <;> simp [importHelper, importAs]
  simp [provide, importsMade]

/-- Before the class of a controller there are no types. -/
theorem allMadeOf_controllerDraft {controller : Controller ClassId}
    (made : AllMadeOf good
      (ActionWriter.controllerClass ⟨options.controllerScope model, options.passing⟩ controller)) :
    AllMadeOf good (options.controllerDraft model controller).lines := by
  rw [ActionWriter.controllerClass] at made
  simp only [controllerDraft]
  split <;> split <;> simp [madeOf_header, madeOf_importAs, made]

theorem allMadeOf_definitions
    (grants : ∀ entry ∈ model.types.classes, ∀ property ∈ entry.properties,
      scope.Grants good property.shape) :
    AllMadeOf good (model.types.classes.flatMap scope.definition) := by
  rw [allMadeOf_flatMap]
  intro entry present
  exact allMadeOf_definition (grants entry present)

theorem allMadeOf_wrapperClasses
    (plain : ∀ entry ∈ model.types.classes, good (.named scope.plainHome entry.name))
    (grants : ∀ entry ∈ model.types.classes, ∀ property ∈ entry.properties,
      scope.Grants good property.shape) :
    AllMadeOf good
      ((model.types.classes.filter scope.hasWrapper).flatMap scope.wrapperClass) := by
  rw [allMadeOf_flatMap]
  intro entry present
  have inTable := (List.mem_filter.mp present).1
  exact allMadeOf_wrapperClass (plain entry inTable) (grants entry inTable)

theorem allMadeOf_wrapperDraft
    (plain : ∀ entry ∈ model.types.classes,
      good (.named (wrapperScope model).plainHome entry.name))
    (grants : ∀ entry ∈ model.types.classes, ∀ property ∈ entry.properties,
      (wrapperScope model).Grants good property.shape) :
    AllMadeOf good (options.wrapperDraft model).lines := by
  have linesMade := allMadeOf_wrapperClasses plain grants
  rw [wrapperDraft, value_writeWrapperClasses]
  simp only [allMadeOf_stack, List.forall_mem_cons]
  exact ⟨by simp [madeOf_header, madeOf_importAs], options.allMadeOf_provide _, linesMade,
    by simp⟩

theorem allMadeOf_servicesDraft : AllMadeOf good (options.servicesDraft model).lines := by
  simp [servicesDraft, madeOf_header, madeOf_importAs, allMadeOf_factory]

theorem allMadeOf_singleDraft
    (plain : ∀ entry ∈ model.types.classes,
      good (.named (options.singleScope model).plainHome entry.name))
    (ofClasses : ∀ entry ∈ model.types.classes, ∀ property ∈ entry.properties,
      (options.singleScope model).Grants good property.shape)
    (ofActions : ∀ controller ∈ model.controllers, ∀ action ∈ controller.actions,
      ∀ shape ∈ action.shapes, (options.singleScope model).Grants good shape) :
    AllMadeOf good (options.singleDraft model).lines := by
  have controllersMade : AllMadeOf good ((orderedControllers model).flatMap
      (ActionWriter.controllerClass ⟨options.singleScope model, options.passing⟩)) := by
    rw [allMadeOf_flatMap]
    intro controller among
    apply ActionWriter.allMadeOf_controllerClass
    exact ofActions controller (List.mem_mergeSort.mp among)
  have definitionsMade := allMadeOf_definitions ofClasses
  have wrappersMade := allMadeOf_wrapperClasses plain ofClasses
  rw [singleDraft, value_writeSingle]
  simp only [allMadeOf_stack, List.forall_mem_cons]
  refine ⟨by simp [madeOf_header, madeOf_importAs], ?_, ⟨definitionsMade, wrappersMade,
    by simp, controllersMade, allMadeOf_factory _ _, by simp⟩, by simp⟩
  split
  · exact allMadeOf_cons.mpr ⟨madeOf_importAs _ _, options.allMadeOf_provide _⟩
  · exact allMadeOf_nil

/-! ### Valid models -/

section Valid

variable (valid : model.validate = .ok ()) (sameTable : scope.table = model.types)

include valid sameTable

/-- No type of a property of a valid model has a gap. -/
theorem grants_properties : ∀ entry ∈ model.types.classes, ∀ property ∈ entry.properties,
    scope.Grants ClientType.IsWhole property.shape := by
  intro entry present property among
  have inModel : property.shape ∈ model.shapes :=
    List.mem_append_right _ (List.mem_flatMap.mpr
      ⟨entry, present, List.mem_map.mpr ⟨property, among, rfl⟩⟩)
  exact (covers_of_valid valid sameTable inModel).grants

/-- No type of a parameter or a payload of a valid model has a gap. -/
theorem grants_actions : ∀ controller ∈ model.controllers, ∀ action ∈ controller.actions,
    ∀ shape ∈ action.shapes, scope.Grants ClientType.IsWhole shape := by
  intro controller present action amongActions shape amongShapes
  have inModel : shape ∈ model.shapes :=
    List.mem_append_left _ (List.mem_flatMap.mpr ⟨controller, present,
      List.mem_flatMap.mpr ⟨action, amongActions, amongShapes⟩⟩)
  exact (covers_of_valid valid sameTable inModel).grants

end Valid

variable (valid : model.validate = .ok ())

include valid

/-- No draft of a valid model has a gap. -/
theorem failures_of_mem_drafts : ∀ draft ∈ options.drafts model, draft.failures = [] := by
  intro draft among
  rw [failures_eq_nil_iff]
  unfold drafts at among
  split at among
  · rw [List.mem_singleton.mp among]
    exact options.allMadeOf_singleDraft (fun _ _ => rfl) (grants_properties valid rfl)
      (grants_actions valid rfl)
  · simp only [List.mem_append, List.mem_map, List.mem_singleton] at among
    rcases among with ((⟨controller, present, rfl⟩ | rfl) | wrappers) | rfl
    · refine options.allMadeOf_controllerDraft (ActionWriter.allMadeOf_controllerClass ?_)
      exact grants_actions valid rfl controller (List.mem_mergeSort.mp present)
    · rw [viewDraft, value_writeDefinitions]
      exact allMadeOf_definitions (grants_properties valid rfl)
    · split at wrappers
      · rw [List.mem_singleton.mp wrappers]
        exact options.allMadeOf_wrapperDraft (fun _ _ => rfl) (grants_properties valid rfl)
      · cases wrappers
    · exact options.allMadeOf_servicesDraft

omit valid in
/-- Drafts without gaps are all finished. -/
theorem finish_of_whole {drafts : List Draft} (whole : ∀ draft ∈ drafts, draft.failures = [])
    (client : Client) :
    Client.finish drafts client =
      { client with modules := drafts.foldl (fun modules draft =>
          Ordered.insert draft.name (Code.spellLines draft.lines) modules) client.modules } := by
  induction drafts generalizing client with
  | nil => rfl
  | cons draft drafts ih =>
    rw [List.forall_mem_cons] at whole
    rw [Client.finish, whole.1]
    exact ih whole.2 _

end Options

/-! ### Results -/

/-- The client of a valid model is written without failure, whatever is chosen about it. Each of its
modules is written, no type in any of them has a gap, and wherever a part of a shape of the model
needs a class, every scope over the classes of the model finds it. -/
theorem client_of_valid (options : Options) (model : ServiceModel ClassId)
    (valid : model.validate = .ok ()) :
    options.client model =
        { modules := (options.drafts model).foldl (fun modules draft =>
            Ordered.insert draft.name (Code.spellLines draft.lines) modules) []
          failure := none } ∧
      (∀ draft ∈ options.drafts model, draft.failures = []) ∧
      ∀ scope : Scope, scope.table = model.types → ∀ shape ∈ model.shapes,
        ∀ part ∈ shape.parts, part.needsClass = true →
          ∃ entry, scope.classOf part = .ok entry := by
  have whole := options.failures_of_mem_drafts valid
  refine ⟨Options.finish_of_whole whole {}, whole, ?_⟩
  intro scope sameTable shape among
  exact covers_of_valid valid sameTable among

/-- A model with a generic class that holds others of its kind, and an action that is sent one. -/
def treeModel : ServiceModel ClassId where
  controllers :=
    [{ name := "Tree"
       actions :=
        [{ name := "Grow", verb := .post, route := "tree", controller := "Tree"
           parameters :=
            [{ name := "tree", isRequired := true, position := .body
               shape :=
                { kind := .object, reference := some 0, arguments := some [{ kind := .int }] } }]
           payload := some { shape := { kind := .object, reference := some 0 } } }] }]
  types := ClassTable.register
    { name := "Tree", sourceName := "Tree\x601", isReadOnly := false, isObservable := true
      genericParameters := some ["T"]
      body := .object
        [{ name := "children", isReadOnly := false
           shape := { kind := .object, reference := some 0, layers := [.array] } }] } {}

theorem client_of_valid_tree :
    treeModel.validate = .ok () ∧
      (({ observable := true } : Options).client treeModel).failure = none := by
  have valid : treeModel.validate = .ok () := by rfl
  refine ⟨valid, ?_⟩
  rw [(client_of_valid { observable := true } treeModel valid).1]

end TypeScript

end ClientGen

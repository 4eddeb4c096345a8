import ClientGen.Proofs.TypeScript.Dependence
import ClientGen.Proofs.TypeScript.Numbering

/-!
# What is noted for code

Whoever writes the name of a class or calls a helper notes what that depends on, there and then;
nobody looks at the code as a whole. So code and notes could come apart in any function that writes
some code. They do not: what is noted for types, definitions and controllers is what the code
depends on, and so it is for the helpers that wrappers call. This is shown step by step, each
function from those that it consists of, and for types by induction on shapes.

In two places more is noted than is written. A payload with a wrapper is noted even where nothing is
put into the wrapper, and so is a property with a wrapper that clients do not change. Less is noted
for the class of a wrapper: its module is imported in any case.
-/

namespace ClientGen.TypeScript

open Code

variable {needed : Dependency} {helper : Helper} {scope : Scope}

/-! ### Types -/

namespace Scope

/-- Whether plain classes and wrappers are found where their modules are, or here. -/
structure IsSited (scope : Scope) : Prop where
  plain : scope.plainHome = .here ∨ scope.plainHome = .views
  wrapper : scope.wrapperHome = .here ∨ scope.wrapperHome = .wrappers

theorem has_writePlainName (sited : scope.IsSited) (entry : ClassEntry ClassId) :
    (scope.writePlainName entry).needs.has needed =
      (ClientType.named scope.plainHome entry.name).dependsOn needed := by
  rw [ClientType.dependsOn_named]
  rcases sited.plain with home | home <;> simp [writePlainName, home, Home.isOf]

theorem has_writeWrapperName (sited : scope.IsSited) (entry : ClassEntry ClassId) :
    (scope.writeWrapperName entry).needs.has needed =
      (scope.wrapperType entry).dependsOn needed := by
  rw [wrapperType, ClientType.dependsOn_named]
  rcases sited.wrapper with home | home <;> simp [writeWrapperName, home, Home.isOf]

theorem has_writeWrapper (sited : scope.IsSited) (shape : Shape ClassId) :
    (scope.writeWrapper shape).needs.has needed =
      (scope.wrapper? shape).any (ClientType.dependsOn needed) := by
  rw [wrapper?_eq, writeWrapper]
  split
  · cases scope.classOf shape with
    | error failure => simp
    | ok entry =>
      dsimp only
      split
      · simp [has_writeWrapperName sited]
      · simp
  · simp

theorem has_writeClass (sited : scope.IsSited) (live : Bool) (shape : Shape ClassId) :
    (scope.writeClass live shape).needs.has needed =
      (scope.classType live shape).dependsOn needed := by
  rw [classType_eq, writeClass]
  cases scope.classOf shape with
  | error failure => simp
  | ok entry =>
    dsimp only
    split
    · exact has_writeWrapperName sited entry
    · exact has_writePlainName sited entry

mutual

/-- What is noted for the type of a shape is what the type depends on. -/
theorem has_writeType (sited : scope.IsSited) (live : Bool) : ∀ shape : Shape ClassId,
    (scope.writeType live shape).needs.has needed = (scope.typeOf live shape).dependsOn needed
  | ⟨kind, reference, layers, nullable, optional, arguments, parameterName, alternatives⟩ => by
    have ofArguments := has_writeTypesOfOption sited false arguments
    have ofAlternatives := has_writeTypesOfOption sited live alternatives
    rw [typeOf_mk, ClientType.dependsOn]
    simp only [leaves_orNull, leaves_inLayers]
    rw [← ClientType.dependsOn]
    unfold writeType
    simp only [Writing.has_bind, Writing.has_pure, Bool.or_false]
    cases kind with
    | object =>
      have written : (scope.writeTypesOfOption false arguments).value =
        scope.typesOfOption false arguments := rfl
      simp only [Writing.has_bind, has_writeClass sited, ofArguments, written]
      cases scope.typesOfOption false arguments with
      | none => simp
      | some types => simp [ClientType.dependsOn_apply]
    | enum => exact has_writeClass sited false { kind := .enum, reference }
    | union =>
      have written : (scope.writeTypesOfOption live alternatives).value =
        scope.typesOfOption live alternatives := rfl
      simp only [Writing.has_bind, ofAlternatives, written]
      rcases scope.typesOfOption live alternatives with _ | _ | ⟨type, types⟩ <;>
        simp [ClientType.dependsOn_union]
    | _ => simp

theorem has_writeTypesOfOption (sited : scope.IsSited) (live : Bool) :
    ∀ shapes : Option (List (Shape ClassId)),
      (scope.writeTypesOfOption live shapes).needs.has needed =
        (scope.typesOfOption live shapes).any fun types => types.any (ClientType.dependsOn needed)
  | none => by simp [writeTypesOfOption, typesOfOption_none]
  | some shapes => by
    have ofShapes := has_writeTypes sited live shapes
    simpa [writeTypesOfOption, typesOfOption_some] using ofShapes

theorem has_writeTypes (sited : scope.IsSited) (live : Bool) :
    ∀ shapes : List (Shape ClassId), (scope.writeTypes live shapes).needs.has needed =
      (scope.typesOf live shapes).any (ClientType.dependsOn needed)
  | [] => by simp [writeTypes, typesOf_nil]
  | shape :: shapes => by
    have ofShape := has_writeType sited live shape
    have ofOthers := has_writeTypes sited live shapes
    simp [writeTypes, typesOf_cons, ofShape, ofOthers]

end

theorem has_writeElementType (sited : scope.IsSited) (live : Bool) (shape : Shape ClassId) :
    (scope.writeElementType live shape).needs.has needed =
      (scope.elementType live shape).dependsOn needed :=
  has_writeType sited live _

/-! ### Definitions -/

theorem any_dependsOn_property (property : ClassProperty ClassId) :
    (scope.property property).any (dependsOn needed) =
      (scope.typeOf false property.shape).dependsOn needed := by
  rw [property_eq, any_dependsOn_documented]
  cases mark : property.shape.optional <;> simp

theorem has_writeProperty (sited : scope.IsSited) (property : ClassProperty ClassId) :
    (scope.writeProperty property).needs.has needed =
      (scope.property property).any (dependsOn needed) := by
  simp [any_dependsOn_property, writeProperty, has_writeType sited]

theorem any_dependsOn_properties (properties : List (ClassProperty ClassId)) :
    (separated (properties.map scope.property)).any (dependsOn needed) =
      properties.any fun property => (scope.property property).any (dependsOn needed) := by
  rw [any_dependsOn_separated, List.any_map]
  rfl

theorem has_writeDefinition (sited : scope.IsSited) (entry : ClassEntry ClassId) :
    (scope.writeDefinition entry).needs.has needed =
      (scope.definition entry).any (dependsOn needed) := by
  rw [definition_eq, writeDefinition]
  cases entry.body with
  | object properties => simp [any_dependsOn_properties, has_writeProperty sited]
  | enum values => simp [any_dependsOn_enumLines]

/-- In the definition of a class no helper is called. -/
theorem any_calls_definition {entry : ClassEntry ClassId} :
    (scope.definition entry).any (calls helper) = false := by
  rw [definition_eq]
  cases entry.body with
  | object properties => simp [any_dependsOn_properties, any_dependsOn_property]
  | enum values => simp [any_dependsOn_enumLines]

/-- What is noted for the definitions of all classes is what they depend on. -/
theorem has_writeDefinitions (sited : scope.IsSited) :
    scope.writeDefinitions.needs.has needed =
      scope.writeDefinitions.value.any (dependsOn needed) := by
  rw [value_writeDefinitions, List.any_flatMap]
  simp [writeDefinitions, has_writeDefinition sited]

end Scope

/-! ### Wrappers -/

namespace Holding

variable (name : String) (holding : Holding)

theorem has_writeChanged :
    (holding.writeChanged name).needs.has (.helper helper) =
      (holding.changed name).calls helper := by
  cases holding <;> simp [writeChanged, changed_eq]

theorem has_writePlainData :
    (holding.writePlainData name).needs.has (.helper helper) =
      (holding.plainData name).calls helper := by
  cases holding <;> simp [writePlainData, plainData_eq]

theorem has_writeLoad :
    (holding.writeLoad name).needs.has (.helper helper) =
      (holding.load name).calls helper := by
  cases holding <;> simp [writeLoad, load_eq]

end Holding

namespace Member

variable (members : List Member) {data : Code}

theorem has_writeChangedCondition :
    (writeChangedCondition members).needs.has (.helper helper) =
      (writeChangedCondition members).value.calls helper := by
  unfold writeChangedCondition
  split
  · simp
  · simp [dependsOn_join, List.any_map, Function.comp_def, Holding.has_writeChanged,
      Holding.changed]

theorem has_writePlainField (member : Member) :
    member.writePlainField.needs.has (.helper helper) =
      member.writePlainField.value.calls helper := by
  simp [writePlainField, Holding.has_writePlainData, Holding.plainData]

theorem has_writeFunctions (silent : data.calls helper = false) :
    (writeFunctions data members).needs.has (.helper helper) =
      (writeFunctions data members).value.any (calls helper) := by
  simp [writeFunctions, has_writeChangedCondition, has_writePlainField, Holding.has_writeLoad,
    Holding.load, silent, List.any_map, Function.comp_def]

end Member

/-- Every validator is marked as one, and as nothing else. -/
theorem calls_validators {constraints : Constraints} : ∀ validator ∈ validators constraints,
    validator.calls helper = true → helper = .validation := by
  have range : ∀ validator ∈ rangeValidator constraints,
      validator.calls helper = true → helper = .validation := by
    unfold rangeValidator
    split <;> simp
  simp only [validators, Code.stack, Code.given, List.flatten_cons, List.flatten_nil,
    List.forall_mem_append, List.forall_mem_map]
  refine ⟨?_, by simp, by simp, by simp, ?_, range, by simp⟩
  · split <;> simp
  · split <;> simp

theorem calls_field {property : ClassProperty ClassId} :
    (scope.field property).calls helper = true ↔
      isValidated property = true ∧ helper = .validation := by
  rw [Scope.field_eq]
  by_cases readOnly : property.isReadOnly = true
  · simp [readOnly, isValidated]
  by_cases isList : property.shape.layers = [.array]
  · simp [readOnly, isList, isValidated]
  by_cases validated : isValidated property = true
  · simp only [readOnly, isList, validated, if_true, if_false, true_and, Bool.false_eq_true]
    simp only [dependsOn_row, List.any_cons, List.any_nil, dependsOn_flatMap, dependsOn_text,
      dependsOn_helper, dependsOn_type, ClientType.dependsOn_helper, dependsOn_nil, Bool.or_false,
      Bool.false_or, Bool.or_eq_true, decide_eq_true_eq, Dependency.helper.injEq, List.any_eq_true]
    constructor
    · rintro (isValidation | ⟨validator, among, marked⟩)
      · exact isValidation
      · exact calls_validators validator among marked
    · exact Or.inl
  · simp [readOnly, isList, validated]

theorem calls_validity {properties : List (ClassProperty ClassId)} :
    (validity properties).any (calls helper) = true ↔
      (∃ property ∈ properties, isValidated property = true) ∧ helper = .loading := by
  rw [validity_eq]
  split
  · next none =>
    have noneValidated := List.filter_eq_nil_iff.mp none
    simp only [List.any_nil, Bool.false_eq_true, false_iff]
    rintro ⟨⟨property, among, validated⟩, -⟩
    exact noneValidated property among validated
  · next given =>
    have someValidated : ∃ property ∈ properties, isValidated property = true := by
      obtain ⟨property, among⟩ := List.exists_mem_of_ne_nil _ given
      exact ⟨property, List.mem_filter.mp among⟩
    simp [someValidated]

theorem has_writeValidity (properties : List (ClassProperty ClassId)) :
    (writeValidity properties).needs.has (.helper helper) =
      (validity properties).any (calls helper) := by
  rw [validity_eq, writeValidity]
  split
  · simp
  · simp

namespace Scope

theorem has_writeField (sited : scope.IsSited) (property : ClassProperty ClassId) :
    (scope.writeField property).needs.has (.helper helper) =
      (scope.field property).calls helper := by
  rw [Bool.eq_iff_iff, calls_field, writeField]
  by_cases readOnly : property.isReadOnly = true
  · simp [readOnly, isValidated, has_writeType sited]
  by_cases isList : property.shape.layers = [.array]
  · simp [readOnly, isList, isValidated, has_writeElementType sited]
  by_cases validated : isValidated property = true
  · simp [readOnly, isList, validated, has_writeType sited]
  · simp [readOnly, isList, validated, has_writeType sited]

theorem has_writeFieldLines (sited : scope.IsSited) (property : ClassProperty ClassId) :
    (scope.writeFieldLines property).needs.has (.helper helper) =
      (scope.writeFieldLines property).value.any (calls helper) := by
  simp [writeFieldLines, has_writeField sited, field]

theorem has_writeMember (sited : scope.IsSited) (property : ClassProperty ClassId) :
    (scope.writeMember property).needs.has (.helper helper) = false := by
  have ofWrapper : (scope.writeWrapper property.shape).needs.has (.helper helper) = false := by
    rw [has_writeWrapper sited]
    cases scope.wrapper? property.shape <;> simp
  simp only [writeMember, writeHolding, Writing.has_bind, Writing.has_pure, Bool.or_false,
    Bool.or_eq_false_iff]
  constructor
  · split
    · exact ofWrapper
    · exact ofWrapper
    · simp
  · split <;> simp

theorem has_writeWrapperClass (sited : scope.IsSited) (entry : ClassEntry ClassId) :
    (scope.writeWrapperClass entry).needs.has (.helper helper) =
      (scope.wrapperClass entry).any (calls helper) := by
  have noMember : (entry.properties.any fun property =>
      (scope.writeMember property).needs.has (.helper helper)) = false :=
    List.any_eq_false.mpr fun property _ => by simp [has_writeMember sited]
  have silent : Code.calls helper
      [.type (.named scope.plainHome entry.name), .text (genericList entry)] = false := by simp
  have ofFunctions := Member.has_writeFunctions
    (entry.properties.map fun property => (scope.writeMember property).value) silent
  unfold wrapperClass writeWrapperClass
  simp only [Writing.has_bind, Writing.value_bind, Writing.has_each, Writing.value_each,
    Writing.has_pure, Writing.value_pure, ← List.flatMap_def, noMember, has_writeFieldLines sited,
    has_writeValidity, Bool.false_or, Bool.or_false]
  simp only [any_dependsOn_stack, List.any_cons, List.any_nil, any_dependsOn_comment,
    List.any_map, dependsOn_comp_indent_unless_blank, List.any_flatMap, dependsOn_nil,
    dependsOn_text, dependsOn_indent, dependsOn_row, dependsOn_type, ClientType.dependsOn_helper,
    Bool.or_false, Bool.false_or]
  rw [ofFunctions]
  rfl

theorem has_writeWrapperClasses (sited : scope.IsSited) :
    scope.writeWrapperClasses.needs.has (.helper helper) =
      scope.writeWrapperClasses.value.any (calls helper) := by
  rw [value_writeWrapperClasses, List.any_flatMap]
  simp [writeWrapperClasses, has_writeWrapperClass sited]

end Scope

/-! ### Controllers -/

namespace ActionWriter

variable {writer : ActionWriter} {action : Action ClassId}

theorem dependsOn_declaration (parameter : ActionParameter ClassId) :
    (writer.declaration parameter).dependsOn needed =
      (writer.scope.typeOf writer.scope.observable parameter.shape).dependsOn needed := by
  rw [declaration_eq]
  cases mark : parameter.isRequired <;> simp

theorem dependsOn_signature (action : Action ClassId) :
    (writer.signature action).dependsOn needed =
      (writer.declared action).any fun parameter =>
        (writer.declaration parameter).dependsOn needed := by
  have declarations : ((writer.declared action).map writer.declaration).any (dependsOn needed) =
      (writer.declared action).any fun parameter =>
        (writer.declaration parameter).dependsOn needed := List.any_map
  rw [← declarations, signature_eq]
  split
  · next none =>
    rw [none]
    rfl
  · rw [dependsOn_join]
  · simp [dependsOn_join]

theorem has_writeSignature (sited : writer.scope.IsSited) (action : Action ClassId) :
    (writer.writeSignature action).needs.has needed =
      (writer.signature action).dependsOn needed := by
  simp [dependsOn_signature, dependsOn_declaration, writeSignature, writeDeclaration,
    Scope.has_writeType sited]

/-- A path is made of texts and values. -/
theorem dependsOn_path : (writer.path action).dependsOn needed = false := by
  unfold path
  split
  · simp only [dependsOn_row, List.any_cons, dependsOn_flatMap, dependsOn_text, dependsOn_nil,
      List.any_nil, Bool.or_false, Bool.false_or, List.any_eq_false]
    rintro (c | placeholder) - <;> simp [value]
  · rfl

theorem dependsOn_queryField (parameter : ActionParameter ClassId) :
    (writer.queryField parameter).dependsOn needed = false := by
  unfold queryField
  simp only
  split <;> rfl

theorem dependsOn_query : (writer.query action).dependsOn needed = false := by
  have fields (parameters : List (ActionParameter ClassId)) :
      (parameters.map writer.queryField).any (dependsOn needed) = false := by
    rw [List.any_map]
    exact List.any_eq_false.mpr fun parameter _ => by simp [dependsOn_queryField]
  unfold query
  split
  · rfl
  · simp only [dependsOn_row, List.any_cons, dependsOn_join, fields, List.any_nil]
    rfl

theorem dependsOn_body : (writer.body action).dependsOn needed = false := by
  unfold body
  split
  · rfl
  · simp only
    split <;> rfl

/-- Whether the wrapper of a payload depends on something. -/
def payloadDependsOn (writer : ActionWriter) (needed : Dependency) (action : Action ClassId) :
    Bool :=
  action.payload.any fun payload =>
    (writer.scope.wrapper? payload.shape).any (ClientType.dependsOn needed)

theorem dependsOn_rewrap {shape : Shape ClassId}
    (depends : (writer.rewrap shape).dependsOn needed = true) :
    (writer.scope.wrapper? shape).any (ClientType.dependsOn needed) = true := by
  rw [rewrap_eq] at depends
  split at depends
  · next wrapped _ => simpa [wrapped] using depends
  · next wrapped _ => simpa [wrapped] using depends
  · cases depends

theorem has_writeRewrap (sited : writer.scope.IsSited) (shape : Shape ClassId) :
    (writer.writeRewrap shape).needs.has needed =
      (writer.scope.wrapper? shape).any (ClientType.dependsOn needed) := by
  simp [writeRewrap, Scope.has_writeWrapper sited]

theorem has_writeRequest (sited : writer.scope.IsSited) (action : Action ClassId) :
    (writer.writeRequest action).needs.has needed =
      ((writer.request action).dependsOn needed || writer.payloadDependsOn needed action) := by
  rw [request_eq, writeRequest, payloadDependsOn]
  cases action.payload with
  | none => simp [dependsOn_path, dependsOn_query, dependsOn_body]
  | some payload =>
    have absorbed : ((writer.rewrap payload.shape).dependsOn needed ||
        (writer.scope.wrapper? payload.shape).any (ClientType.dependsOn needed)) =
          (writer.scope.wrapper? payload.shape).any (ClientType.dependsOn needed) :=
      Bool.or_eq_right_iff_imp.mpr dependsOn_rewrap
    simp [dependsOn_path, dependsOn_query, dependsOn_body, Scope.has_writeType sited,
      has_writeRewrap sited, Bool.or_assoc, absorbed]

theorem any_dependsOn_comment (action : Action ClassId) :
    (comment action).any (dependsOn needed) = false := by
  have ofLines : (commentLines action).any (dependsOn needed) = false := by
    simp [commentLines, Code.given]
  have marked : (dependsOn needed ∘ fun line => .text " * " :: line) = dependsOn needed := rfl
  unfold comment
  split
  · rfl
  · simp only [any_dependsOn_stack, List.any_cons, List.any_map, marked, ofLines]
    simp

theorem any_dependsOn_function (name : String) :
    (writer.function name action).any (dependsOn needed) =
      ((writer.signature action).dependsOn needed || (writer.request action).dependsOn needed) := by
  rw [function_eq, List.any_map, dependsOn_comp_indent]
  simp [any_dependsOn_comment]

theorem has_writeFunction (sited : writer.scope.IsSited) (name : String)
    (action : Action ClassId) :
    (writer.writeFunction name action).needs.has needed =
      ((writer.function name action).any (dependsOn needed) ||
        writer.payloadDependsOn needed action) := by
  rw [any_dependsOn_function, Bool.or_assoc]
  simp [writeFunction, has_writeSignature sited, has_writeRequest sited]

/-- What is noted for a controller is what its class depends on and what wrappers of payloads do. -/
theorem has_writeController (sited : writer.scope.IsSited) (controller : Controller ClassId) :
    (writer.writeController controller).needs.has needed =
      ((writer.controllerClass controller).any (dependsOn needed) ||
        controller.actions.any (writer.payloadDependsOn needed)) := by
  have functions : (writer.controllerClass controller).any (dependsOn needed) =
      controller.uniqueNames.any fun named =>
        (writer.function (QualifiedName.camelCase named.1) named.2).any (dependsOn needed) := by
    simp [controllerClass_eq, List.any_flatMap]
  have payloads : controller.actions.any (writer.payloadDependsOn needed) =
      controller.uniqueNames.any fun named => writer.payloadDependsOn needed named.2 := by
    rw [← controller.ordered_perm.any_eq, ← controller.map_snd_uniqueNames, List.any_map]
    rfl
  rw [functions, payloads, Bool.eq_iff_iff]
  simp [writeController, writeFunctionLines, has_writeFunction sited, and_or_left, exists_or]

theorem calls_request : (writer.request action).calls helper = false := by
  have ofRewrap (shape : Shape ClassId) : (writer.rewrap shape).calls helper = false := by
    rw [rewrap_eq]
    split <;> simp
  rw [request_eq]
  simp only
  split <;> simp [dependsOn_path, dependsOn_query, dependsOn_body, ofRewrap]

/-- In the class of a controller no helper is called. -/
theorem any_calls_controllerClass {controller : Controller ClassId} :
    (writer.controllerClass controller).any (calls helper) = false := by
  simp [controllerClass_eq, List.any_flatMap, any_dependsOn_function, dependsOn_signature,
    dependsOn_declaration, calls_request]

theorem payloadDependsOn_helper (action : Action ClassId) :
    writer.payloadDependsOn (.helper helper) action = false := by
  unfold payloadDependsOn
  cases action.payload with
  | none => rfl
  | some payload =>
    rw [Option.any_some]
    cases writer.scope.wrapper? payload.shape <;> simp

theorem has_writeController_helper (sited : writer.scope.IsSited)
    (controller : Controller ClassId) :
    (writer.writeController controller).needs.has (.helper helper) =
      (writer.controllerClass controller).any (calls helper) := by
  have noPayload : controller.actions.any (writer.payloadDependsOn (.helper helper)) = false :=
    List.any_eq_false.mpr fun action _ => by simp [payloadDependsOn_helper]
  rw [has_writeController sited, noPayload, Bool.or_false]

end ActionWriter

/-! ### Modules -/

namespace Options

variable (options : Options) (model : ServiceModel ClassId)

theorem isSited_controllerScope : (options.controllerScope model).IsSited :=
  ⟨.inr rfl, .inr rfl⟩

theorem isSited_wrapperScope : (wrapperScope model).IsSited :=
  ⟨.inr rfl, .inl rfl⟩

theorem isSited_singleScope : (options.singleScope model).IsSited :=
  ⟨.inl rfl, .inl rfl⟩

/-- The helpers that are noted for a single client are those that are called in it. -/
theorem has_writeSingle : (options.writeSingle model).needs.has (.helper helper) =
    (options.writeSingle model).value.any (calls helper) := by
  have sited := options.isSited_singleScope model
  have ofController (writer : ActionWriter) (same : writer.scope = options.singleScope model)
      (controller : Controller ClassId) :
      (writer.writeController controller).needs.has (.helper helper) =
        (writer.writeController controller).value.any (calls helper) :=
    ActionWriter.has_writeController_helper (same ▸ sited) controller
  simp [writeSingle, Scope.has_writeDefinitions sited, Scope.has_writeWrapperClasses sited,
    ofController, any_dependsOn_factory, List.any_flatten, List.any_map, Function.comp_def]

end Options

end ClientGen.TypeScript

import ClientGen.Model.Read
import ClientGen.Proofs.Collections.Ordered
import ClientGen.Proofs.Json.Restoring
import ClientGen.Proofs.Model.Parts

/-!
# Dumps of models

A dump leaves out what has no value, lists that are empty and demands that say nothing. Reading it
puts back what was left out, so nothing is lost, the order of the classes included. What is asked of
the model is that its numbers fit into words and that no two classes are registered under the same
name; what is asked of the text is that containers are not nested too deeply and that the floats in
it are read back.
-/

namespace ClientGen

open Data Json

/-! ### Names -/

namespace Shape

/-- Whether the places of the classes that a shape refers to fit into words. -/
def InRange (shape : Shape ClassId) : Prop :=
  ∀ part ∈ shape.parts, ∀ id ∈ part.reference, id < 2 ^ 64

theorem lookup_kindNames (kind : Shape.Kind) : kindNames.lookup kind.name = some kind := by
  cases kind <;> rfl

/-- The layers by their names. -/
theorem restores_layer (layer : Layer) :
    Restores (Reader.choice [("Array", Layer.array), ("Dictionary", .dictionary)])
      (.text layer.name) layer := by
  apply restores_choice
  cases layer <;> rfl

end Shape

theorem writes_optional_text {name : String} (content : Option String) :
    Writes ⟨name, .orNull .text⟩ (Tree.optional name .text content) (content.map some) := by
  apply writes_optional
  intro value _
  exact ⟨by simp, restores_text value⟩

theorem finds_one {α : Type} {field : Data.Field α} {own : List (String × Tree)} {value : Option α}
    (writes : Writes field own value) : Finds (.cons field .nil) [field.name] own (value, ()) := by
  simpa using finds_cons writes finds_nil (by simp)

/-! ### Demands -/

structure Constraints.InRange (constraints : Constraints) : Prop where
  minLength : ∀ length ∈ constraints.minLength, length < 2 ^ 32
  maxLength : ∀ length ∈ constraints.maxLength, length < 2 ^ 32

theorem ValueFormat.lookup_name (format : ValueFormat) :
    [("None", ValueFormat.none), ("Email", .email)].lookup format.name = some format := by
  cases format <;> rfl

/-- The length of a text or a list, if it is limited. -/
theorem writes_length {name : String} {own : Option Nat}
    (inRange : ∀ length ∈ own, length < 2 ^ 32) :
    Writes ⟨name, .orNull (.word 32)⟩ (Tree.optional name (.int ·) own) (own.map some) := by
  cases own with
  | none => exact .absent
  | some length =>
    apply Writes.present
    exact restores_orNull (by simp) (restores_word (by decide) (inRange length rfl))

theorem writes_bound {name : String} (own : Option Float) :
    Writes ⟨name, .orNull .float⟩ (Tree.optional name .real own) (own.map some) := by
  apply writes_optional
  intro bound _
  exact ⟨by simp, restores_float bound⟩

theorem Constraints.restores {constraints : Constraints} (inRange : constraints.InRange) :
    Restores Constraints.reader constraints.toTree constraints := by
  unfold reader toTree
  simp only [List.append_assoc]
  apply restores_record
  · apply finds_cons (writes_length inRange.minLength)
    apply finds_cons (writes_length inRange.maxLength)
    apply finds_cons (writes_bound _)
    apply finds_cons (writes_bound _)
    apply finds_cons (writes_optional_text _)
    apply finds_cons (writes_field (restores_choice (ValueFormat.lookup_name _)))
    apply finds_one (writes_field (restores_bool _))
    all_goals simp
  · simp [bind, Except.bind]

theorem Constraints.eq_of_isEmpty {constraints : Constraints}
    (isEmpty : constraints.isEmpty = true) : constraints = {} := by
  rcases constraints with ⟨minLength, maxLength, minimum, maximum, compare, format, required⟩
  simp_all [Constraints.isEmpty]

theorem Constraints.writes_field {constraints : Constraints} (inRange : constraints.InRange) :
    Writes ⟨"constraints", Constraints.reader⟩ constraints.field
      (if constraints.isEmpty then none else some constraints) := by
  unfold Constraints.field
  split
  · exact .absent
  · exact .present (Constraints.restores inRange)

/-- Demands that were left out are none. -/
theorem Constraints.getD_eq_self (constraints : Constraints) :
    (if constraints.isEmpty then none else some constraints : Option Constraints).getD {} =
      constraints := by
  split
  · next isEmpty => exact (Constraints.eq_of_isEmpty isEmpty).symm
  · rfl

/-! ### Shapes -/

namespace Shape

theorem depthOfFields_append (fields others : List (String × Tree)) :
    Tree.depthOfFields (fields ++ others) =
      max (Tree.depthOfFields fields) (Tree.depthOfFields others) := by
  induction fields with
  | nil => simp [Tree.depthOfFields]
  | cons field fields ih =>
    rw [List.cons_append, Tree.depthOfFields, Tree.depthOfFields, ih, max_assoc]

theorem writes_reference {name : String} {reference : Option ClassId}
    (inRange : ∀ id ∈ reference, id < 2 ^ 64) :
    Writes ⟨name, .orNull (.word 64)⟩ (Tree.optional name (fun id => .int (id : Nat)) reference)
      (reference.map some) := by
  apply writes_optional
  intro id given
  exact ⟨by simp, restores_word (le_refl 64) (inRange id given)⟩

mutual

/-- A shape is read within any bound on its depth. -/
theorem restores_readerWithin :
    ∀ (shape : Shape ClassId) (bound : Nat), shape.InRange → shape.toTree.depth ≤ bound →
      Restores (readerWithin bound) shape.toTree shape
  | ⟨_, _, _, _, _, _, _, _⟩, 0, _, deep => by
    rw [toTree, Tree.depth] at deep
    omega
  | ⟨kind, reference, layers, nullable, optional, arguments, parameterName, alternatives⟩,
      bound + 1, inRange, deep => by
    rw [InRange, parts, List.forall_mem_cons, List.forall_mem_append] at inRange
    rcases inRange with ⟨own, insideArguments, insideAlternatives⟩
    rw [toTree, Tree.depth] at deep
    simp only [depthOfFields_append] at deep
    have argumentsWritten := writes_optionTree arguments "generic_arguments" bound insideArguments
      (by omega)
    have alternativesWritten := writes_optionTree alternatives "union" bound insideAlternatives
      (by omega)
    rw [toTree, readerWithin]
    simp only [List.append_assoc]
    apply restores_record
    · apply finds_cons (writes_field (restores_choice (lookup_kindNames kind)))
      apply finds_cons (writes_reference own)
      apply finds_cons (writes_nonempty fun layer _ => restores_layer layer)
      apply finds_cons (writes_field (restores_bool nullable))
      apply finds_cons (writes_field (restores_bool optional))
      apply finds_cons argumentsWritten
      apply finds_cons (writes_optional_text parameterName)
      apply finds_one alternativesWritten
      all_goals simp
    · simp [getD_unlessEmpty, bind, Except.bind]

theorem writes_optionTree :
    ∀ (shapes : Option (List (Shape ClassId))) (name : String) (bound : Nat),
      (∀ part ∈ partsOption shapes, ∀ id ∈ part.reference, id < 2 ^ 64) →
        Tree.depthOfFields (optionTree name shapes) ≤ bound →
          Writes ⟨name, .orNull (.list (readerWithin bound))⟩ (optionTree name shapes)
            (shapes.map some)
  | none, _, _, _, _ => .absent
  | some shapes, name, bound, inRange, deep => by
    rw [optionTree, Tree.depthOfFields, Tree.depth] at deep
    have inside := forall₂_listTrees shapes bound inRange (by omega)
    exact .present (restores_orNull (by simp) (restores_list inside))

theorem forall₂_listTrees :
    ∀ (shapes : List (Shape ClassId)) (bound : Nat),
      (∀ part ∈ partsList shapes, ∀ id ∈ part.reference, id < 2 ^ 64) →
        Tree.depthOfItems (listTrees shapes) ≤ bound →
          List.Forall₂ (Restores (readerWithin bound)) (listTrees shapes) shapes
  | [], _, _, _ => .nil
  | shape :: shapes, bound, inRange, deep => by
    rw [partsList, List.forall_mem_append] at inRange
    rw [listTrees, Tree.depthOfItems] at deep
    rw [listTrees]
    exact .cons (restores_readerWithin shape bound inRange.1 (by omega))
      (forall₂_listTrees shapes bound inRange.2 (by omega))

end

theorem restores_reader {shape : Shape ClassId} (inRange : shape.InRange) :
    Restores Shape.reader shape.toTree shape := by
  intro scope levels exact
  have within := restores_readerWithin shape (scope.levels + 1) inRange (by omega)
  exact within scope levels exact

end Shape

/-! ### Classes -/

theorem ClassProperty.restores {property : ClassProperty ClassId}
    (shape : property.shape.InRange) (constraints : property.constraints.InRange) :
    Restores ClassProperty.reader property.toTree property := by
  unfold reader toTree
  simp only [List.append_assoc]
  apply restores_record
  · apply finds_cons (writes_field (restores_text property.name))
    apply finds_cons (writes_field (Shape.restores_reader shape))
    apply finds_cons (writes_optional_text property.documentation)
    apply finds_cons (writes_field (restores_bool property.isReadOnly))
    apply finds_one (Constraints.writes_field constraints)
    all_goals simp
  · simp [Constraints.getD_eq_self, bind, Except.bind]

structure EnumValue.InRange (value : EnumValue) : Prop where
  least : -(2 ^ 63) ≤ value.value
  greatest : value.value < 2 ^ 63

theorem EnumValue.restores {value : EnumValue} (inRange : value.InRange) :
    Restores EnumValue.reader value.toTree value := by
  unfold reader toTree
  simp only [List.append_assoc]
  apply restores_record
  · apply finds_cons (writes_field (restores_text value.name))
    apply finds_cons (writes_field (restores_int64 inRange.least inRange.greatest))
    apply finds_one (writes_optional_text value.documentation)
    all_goals simp
  · simp [bind, Except.bind]

/-- Whether the numbers in a class fit into words. -/
structure ClassEntry.InRange (entry : ClassEntry ClassId) : Prop where
  shapes : ∀ property ∈ entry.properties, property.shape.InRange
  constraints : ∀ property ∈ entry.properties, property.constraints.InRange
  values : ∀ value ∈ entry.values, value.InRange

theorem ClassEntry.restores_body {entry : ClassEntry ClassId} (inRange : entry.InRange) :
    Restores ClassBody.reader entry.body.toTree entry.body := by
  rcases inRange with ⟨shapes, constraints, values⟩
  unfold properties at shapes constraints
  unfold ClassEntry.values at values
  unfold ClassBody.reader
  cases body : entry.body with
  | object properties =>
    rw [body] at shapes constraints
    apply restores_keyed rfl
    apply restores_map
    apply restores_list_map
    intro property among
    exact ClassProperty.restores (shapes property among) (constraints property among)
  | enum members =>
    rw [body] at values
    apply restores_keyed rfl
    apply restores_map
    apply restores_list_map
    intro value among
    exact EnumValue.restores (values value among)

theorem writes_names {name : String} (names : Option (List String)) :
    Writes ⟨name, .orNull (.list .text)⟩
      (Tree.optional name (fun names => .list (names.map .text)) names) (names.map some) := by
  apply writes_optional
  intro names _
  refine ⟨by simp, restores_list_map ?_⟩
  intro name _
  exact restores_text name

theorem ClassEntry.restores {entry : ClassEntry ClassId} (inRange : entry.InRange) :
    Restores ClassEntry.reader entry.toTree entry := by
  unfold reader toTree
  simp only [List.append_assoc]
  apply restores_record
  · apply finds_cons (writes_field (restores_text entry.name))
    apply finds_cons (writes_field (restores_text entry.sourceName))
    apply finds_cons (writes_optional_text entry.documentation)
    apply finds_cons (writes_field (ClassEntry.restores_body inRange))
    apply finds_cons (writes_names entry.genericParameters)
    apply finds_cons (writes_field (restores_bool entry.isReadOnly))
    apply finds_cons (writes_field (restores_bool entry.isObservable))
    apply finds_one (writes_optional_text entry.version)
    all_goals simp
  · simp [bind, Except.bind]

/-- The classes come back in the same order, because none of them replaces another one. -/
theorem ClassTable.restores {table : ClassTable ClassId}
    (distinct : (table.entries.map (·.1)).Nodup)
    (inRange : ∀ entry ∈ table.classes, entry.InRange) :
    Restores ClassTable.reader table.toTree table := by
  have entries : Restores (Reader.entries ClassEntry.reader) table.toTree table.entries := by
    apply restores_entries
    intro entry among
    exact ClassEntry.restores (inRange entry.2 (List.mem_map_of_mem among))
  have same : Ordered.ofList table.entries = table.entries :=
    Ordered.ofList_eq_self_iff.mpr distinct
  have restored : Restores ClassTable.reader table.toTree ⟨Ordered.ofList table.entries⟩ :=
    restores_map entries
  rwa [same] at restored

/-! ### Services -/

theorem Authorization.restores (authorization : Authorization) :
    Restores Authorization.layout.reader authorization.toTree authorization := by
  cases authorization with
  | policy name => exact restores_withContent rfl (by decide) (restores_map (restores_text name))
  | roles names => exact restores_withContent rfl (by decide) (restores_map (restores_text names))
  | authenticated => exact restores_alone rfl

theorem Position.lookup_name (position : Position) :
    [("Path", Position.path), ("Query", .query), ("Body", .body)].lookup position.name =
      some position := by
  cases position <;> rfl

theorem Verb.lookup_name (verb : Verb) :
    (Verb.all.map fun verb => (verb.name, verb)).lookup verb.name = some verb := by
  cases verb <;> rfl

theorem ActionParameter.restores {parameter : ActionParameter ClassId}
    (shape : parameter.shape.InRange) (constraints : parameter.constraints.InRange) :
    Restores ActionParameter.reader parameter.toTree parameter := by
  unfold reader toTree
  simp only [List.append_assoc]
  apply restores_record
  · apply finds_cons (writes_field (restores_text parameter.name))
    apply finds_cons (writes_field (Shape.restores_reader shape))
    apply finds_cons (writes_field (restores_bool parameter.isRequired))
    apply finds_cons (writes_field (restores_choice (Position.lookup_name parameter.position)))
    apply finds_cons (writes_optional_text parameter.documentation)
    apply finds_one (Constraints.writes_field constraints)
    all_goals simp
  · simp [Constraints.getD_eq_self, bind, Except.bind]

theorem Payload.restores {payload : Payload ClassId} (inRange : payload.shape.InRange) :
    Restores Payload.reader payload.toTree payload := by
  unfold reader toTree
  apply restores_record
  · apply finds_cons (writes_field (Shape.restores_reader inRange))
    apply finds_one (writes_optional_text payload.documentation)
    simp
  · simp [bind, Except.bind]

/-- Whether the numbers in an action fit into words. -/
structure Action.InRange (action : Action ClassId) : Prop where
  shapes : ∀ parameter ∈ action.parameters, parameter.shape.InRange
  constraints : ∀ parameter ∈ action.parameters, parameter.constraints.InRange
  payload : ∀ payload ∈ action.payload, payload.shape.InRange

theorem Action.restores {action : Action ClassId} (inRange : action.InRange) :
    Restores Action.reader action.toTree action := by
  have authorization : Writes ⟨"authorization", .orNull Authorization.layout.reader⟩
      (Tree.optional "authorization" Authorization.toTree action.authorization)
      (action.authorization.map some) := by
    apply writes_optional
    intro authorization _
    refine ⟨?_, Authorization.restores authorization⟩
    cases authorization <;> simp [Authorization.toTree]
  have parameters : Restores (.list ActionParameter.reader)
      (.list (action.parameters.map ActionParameter.toTree)) action.parameters := by
    apply restores_list_map
    intro parameter among
    exact ActionParameter.restores (inRange.shapes parameter among)
      (inRange.constraints parameter among)
  have payload : Writes ⟨"return_node", .orNull Payload.reader⟩
      (Tree.optional "return_node" Payload.toTree action.payload) (action.payload.map some) := by
    apply writes_optional
    intro payload given
    exact ⟨by simp [Payload.toTree], Payload.restores (inRange.payload payload given)⟩
  unfold reader toTree
  simp only [List.append_assoc]
  apply restores_record
  · apply finds_cons (writes_field (restores_text action.name))
    apply finds_cons (writes_field (restores_choice (Verb.lookup_name action.verb)))
    apply finds_cons (writes_field (restores_text action.route))
    apply finds_cons (writes_optional_text action.version)
    apply finds_cons authorization
    apply finds_cons (writes_optional_text action.documentation)
    apply finds_cons (writes_field parameters)
    apply finds_cons payload
    apply finds_one (writes_field (restores_text action.controller))
    all_goals simp
  · simp [bind, Except.bind]

theorem Controller.restores {controller : Controller ClassId}
    (inRange : ∀ action ∈ controller.actions, action.InRange) :
    Restores Controller.reader controller.toTree controller := by
  have actions : Restores (.list Action.reader) (.list (controller.actions.map Action.toTree))
      controller.actions := by
    apply restores_list_map
    intro action among
    exact Action.restores (inRange action among)
  unfold reader toTree
  simp only [List.append_assoc]
  apply restores_record
  · apply finds_cons (writes_field (restores_text controller.name))
    apply finds_cons (writes_optional_text controller.documentation)
    apply finds_one (writes_field actions)
    all_goals simp
  · simp [bind, Except.bind]

theorem NameClash.restores (clash : NameClash) :
    Restores NameClash.reader clash.toTree clash := by
  unfold reader toTree
  apply restores_record
  · apply finds_cons (writes_field (restores_text clash.name))
    apply finds_cons (writes_field (restores_text clash.first))
    apply finds_one (writes_field (restores_text clash.second))
    all_goals simp
  · simp [bind, Except.bind]

/-! ### Models -/

/-- Whether the numbers in a model fit into words. -/
structure ServiceModel.InRange (model : ServiceModel ClassId) : Prop where
  actions : ∀ controller ∈ model.controllers, ∀ action ∈ controller.actions, action.InRange
  classes : ∀ entry ∈ model.types.classes, entry.InRange

theorem ServiceModel.restores {model : ServiceModel ClassId}
    (distinct : (model.types.entries.map (·.1)).Nodup) (inRange : model.InRange) :
    Restores ServiceModel.reader model.toTree model := by
  have controllers : Restores (.list Controller.reader)
      (.list (model.controllers.map Controller.toTree)) model.controllers := by
    apply restores_list_map
    intro controller among
    exact Controller.restores (inRange.actions controller among)
  unfold reader toTree
  simp only [List.append_assoc]
  apply restores_record
  · apply finds_cons (writes_field controllers)
    apply finds_cons (writes_field (ClassTable.restores distinct inRange.classes))
    apply finds_one (writes_nonempty fun clash _ => NameClash.restores clash)
    all_goals simp
  · simp [getD_unlessEmpty, bind, Except.bind]

/-- A model is read from its dump. -/
theorem ServiceModel.read_pretty {model : ServiceModel ClassId}
    (distinct : (model.types.entries.map (·.1)).Nodup) (inRange : model.InRange)
    (finite : ∀ x ∈ model.toTree.reals, x.isFinite = true)
    (exact : ∀ x ∈ model.toTree.reals, x.isFinite = true →
      Json.read Reader.float (Json.pretty (.real x)) = .ok x)
    (shallow : model.toTree.depth ≤ Json.maxLevels) :
    Json.read ServiceModel.reader (Json.pretty model.toTree) = .ok model := by
  have readBack : ∀ x ∈ model.toTree.reals, ReadsBack x := by
    intro x among
    exact exact x among (finite x among)
  have parsed : Json.parse (Json.pretty model.toTree) = ⟨sourceOf model.toTree, false⟩ := by
    apply parse_pretty
    intro x among
    exact (isNumeral_of_read (readBack x among)).1
  have taken := ServiceModel.restores distinct inRange ⟨Json.maxLevels, false⟩ shallow readBack
  simp [Json.read, parsed, taken, bind, Except.bind]

/-- The sizes in which a drink is sold. -/
def sizeEntry : ClassEntry ClassId where
  name := "Size"
  sourceName := "Bar.Size"
  body := .enum [{ name := "Small", value := -1 }, { name := "Large", value := 1 }]

/-- A drink, which may be mixed from others. -/
def drinkEntry : ClassEntry ClassId where
  name := "Drink"
  sourceName := "Bar.Drink"
  documentation := some "Something \"liquid\"."
  body := .object
    [{ name := "strength", shape := { kind := .double, nullable := true }, isReadOnly := false
       constraints := { minimum := some 0.5, maximum := some 2.5, required := true } },
      { name := "parts", isReadOnly := true
        shape := { kind := .object, reference := some 1, layers := [.array, .dictionary] } }]
  genericParameters := some []
  isReadOnly := false

/-- A model of a bar, in which a class is mentioned before it is declared. -/
def bar : ServiceModel ClassId where
  controllers :=
    [{ name := "Drinks"
       actions :=
        [{ name := "Mix", verb := .post, route := "drinks/\tmix", controller := "Drinks"
           authorization := some (.roles "barkeeper")
           parameters :=
            [{ name := "size", isRequired := true, position := .query
               shape := { kind := .enum, reference := some 0 }
               constraints := { minLength := some 1 } }]
           payload := some { shape :=
            { kind := .union
              alternatives := some [{ kind := .object, reference := some 1, arguments := some [] },
                { kind := .any }] } } }] }]
  types := ClassTable.register drinkEntry (ClassTable.register sizeEntry {})
  nameClashes := [⟨"Size", "Bar.Size", "Shoes.Size"⟩]

theorem read_float_of_toOption {text : String} {x : Float}
    (readBack : (Json.read Reader.float text).toOption = some x) :
    Json.read Reader.float text = .ok x := by
  cases outcome : Json.read Reader.float text with
  | error failure => simp [outcome, Except.toOption] at readBack
  | ok result =>
    rw [outcome] at readBack
    cases readBack
    rfl

theorem inRange_bar : bar.InRange := by
  constructor
  · simp only [bar, List.forall_mem_singleton]
    constructor
    · simp [Shape.InRange, Shape.parts, Shape.partsOption]
    · simp only [List.forall_mem_singleton]
      exact ⟨by simp, by simp⟩
    · simp [Shape.InRange, Shape.parts, Shape.partsOption, Shape.partsList]
  · intro entry among
    have classes : bar.types.classes = [sizeEntry, drinkEntry] := rfl
    rw [classes, List.mem_pair] at among
    rcases among with rfl | rfl
    · constructor
      · simp [sizeEntry, ClassEntry.properties]
      · simp [sizeEntry, ClassEntry.properties]
      · simp only [sizeEntry, ClassEntry.values, List.forall_mem_cons]
        exact ⟨⟨by decide, by decide⟩, ⟨by decide, by decide⟩, by simp⟩
    · constructor
      · simp [drinkEntry, ClassEntry.properties, Shape.InRange, Shape.parts, Shape.partsOption]
      · simp only [drinkEntry, ClassEntry.properties, List.forall_mem_cons]
        exact ⟨⟨by simp, by simp⟩, ⟨by simp, by simp⟩, by simp⟩
      · simp [drinkEntry, ClassEntry.values]

theorem ServiceModel.read_pretty_bar :
    (bar.types.entries.map (·.1)).Nodup ∧ bar.InRange ∧
      bar.toTree.reals = [0.5, 2.5] ∧ bar.toTree.depth ≤ Json.maxLevels ∧
      Json.read ServiceModel.reader (Json.pretty bar.toTree) = .ok bar := by
  have distinct : (bar.types.entries.map (·.1)).Nodup := by decide
  have reals : bar.toTree.reals = [0.5, 2.5] := rfl
  have shallow : bar.toTree.depth ≤ Json.maxLevels := by decide
  refine ⟨distinct, inRange_bar, reals, shallow,
    ServiceModel.read_pretty distinct inRange_bar ?_ ?_ shallow⟩
  · rw [reals]
    decide +kernel
  · rw [reals]
    intro x among _
    apply read_float_of_toOption
    revert x
    decide +kernel

end ClientGen

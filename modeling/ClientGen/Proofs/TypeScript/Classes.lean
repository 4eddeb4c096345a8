import ClientGen.TypeScript.Wrapper
import ClientGen.Proofs.TypeScript.Code
import ClientGen.Proofs.TypeScript.Scope

/-!
# What classes are made of

The definition of a class and its wrapper mention the types of its properties and, where a property
is held in wrappers, the wrapper of their class. The wrapper mentions the class itself as well. All
of this is good if the scope grants it for the properties.
-/

namespace ClientGen.TypeScript

variable {scope : Scope} {good : ClientType → Prop} {property : ClassProperty ClassId}
  {entry : ClassEntry ClassId}

open Code Scope

@[simp]
theorem allMadeOf_documented {documentation : Option String} {line : Code} :
    AllMadeOf good (documented documentation line) ↔ line.MadeOf good := by
  rw [documented, allMadeOf_map_indent]
  simp

theorem allMadeOf_enumLines (values : List EnumValue) : AllMadeOf good (enumLines values) := by
  induction values with
  | nil => simp [enumLines]
  | cons value values ih =>
    cases values with
    | nil => simp [enumLines, enumLines.enumMember]
    | cons next values => simp [enumLines, enumLines.enumMember, ih]

/-! ### Definitions -/

theorem allMadeOf_property (grants : scope.Grants good property.shape) :
    AllMadeOf good (scope.property property) := by
  have typeMade := grants.typeOf false
  cases mark : property.shape.optional <;> simp [Scope.property_eq, mark, typeMade]

theorem allMadeOf_definition
    (grants : ∀ property ∈ entry.properties, scope.Grants good property.shape) :
    AllMadeOf good (scope.definition entry) := by
  rw [definition_eq]
  unfold ClassEntry.properties at grants
  split
  · next properties whole =>
    rw [whole] at grants
    have propertiesMade : AllMadeOf good (Code.separated (properties.map scope.property)) := by
      rw [allMadeOf_separated, List.forall_mem_map]
      intro property among
      exact allMadeOf_property (grants property among)
    simp [propertiesMade]
  · simp [allMadeOf_enumLines]

/-! ### Wrappers -/

/-- What a wrapper holds other wrappers in is the wrapper of the shape of the property. -/
theorem wrapper?_of_holding {type : ClientType}
    (held : scope.holding property = .wrapper type ∨ scope.holding property = .wrappers type) :
    scope.wrapper? property.shape = some type := by
  rw [holding_eq] at held
  split at held
  · simp at held
  · split at held
    all_goals simp at held
    all_goals
      subst held
      assumption

theorem madeOf_changed (name : String) (holding : Holding) :
    (holding.changed name).MadeOf good := by
  cases holding <;> simp [Holding.changed_eq]

theorem madeOf_plainData (name : String) (holding : Holding) :
    (holding.plainData name).MadeOf good := by
  cases holding <;> simp [Holding.plainData_eq]

theorem madeOf_load (name : String) (grants : scope.Grants good property.shape) :
    ((scope.holding property).load name).MadeOf good := by
  cases held : scope.holding property with
  | wrapper type => simp [Holding.load_eq, grants.wrapper? (wrapper?_of_holding (.inl held))]
  | wrappers type => simp [Holding.load_eq, grants.wrapper? (wrapper?_of_holding (.inr held))]
  | _ => simp [Holding.load_eq]

theorem allMadeOf_rangeValidator (constraints : Constraints) :
    AllMadeOf good (rangeValidator constraints) := by
  unfold rangeValidator
  split <;> simp

theorem allMadeOf_validators (constraints : Constraints) :
    AllMadeOf good (validators constraints) := by
  unfold validators
  cases constraints.required <;> by_cases email : constraints.format = .email <;>
    simp [email, allMadeOf_rangeValidator]

theorem allMadeOf_validity (properties : List (ClassProperty ClassId)) :
    AllMadeOf good (validity properties) := by
  rw [validity_eq]
  split <;> simp

theorem madeOf_field (grants : scope.Grants good property.shape) :
    (scope.field property).MadeOf good := by
  have typeMade := grants.typeOf
  have elementMade := grants.elementType true
  rw [field_eq]
  split
  · simp [typeMade]
  · split
    · simp [elementMade]
    · split
      · have chainMade : MadeOf good ((validators property.constraints).flatMap fun validator =>
            Code.row [[".addValidator("], validator, [")"]]) := by
          rw [madeOf_flatMap]
          intro validator among
          simpa using allMadeOf_validators property.constraints validator among
        simp [typeMade, chainMade]
      · simp [typeMade]

theorem madeOf_changedCondition (properties : List (ClassProperty ClassId)) :
    (scope.changedCondition properties).MadeOf good := by
  rw [changedCondition_eq]
  split
  · simp
  · rw [madeOf_join, allMadeOf_map]
    intro property _
    exact madeOf_changed property.name (scope.holding property)

theorem allMadeOf_plainFields (scope : Scope) (properties : List (ClassProperty ClassId)) :
    AllMadeOf good (scope.plainFields properties) := by
  simp [plainFields_eq, madeOf_plainData]

theorem allMadeOf_wrapperFunctions {data : Code} (dataMade : data.MadeOf good)
    {properties : List (ClassProperty ClassId)}
    (grants : ∀ property ∈ properties, scope.Grants good property.shape) :
    AllMadeOf good (scope.wrapperFunctions data properties) := by
  have loadsMade : ∀ property ∈ properties,
      ((scope.holding property).load property.name).MadeOf good := by
    intro property among
    exact madeOf_load property.name (grants property among)
  rw [wrapperFunctions_eq]
  simpa [dataMade, madeOf_changedCondition] using
    ⟨allMadeOf_plainFields scope properties, loadsMade⟩

theorem allMadeOf_wrapperClass (plain : good (.named scope.plainHome entry.name))
    (grants : ∀ property ∈ entry.properties, scope.Grants good property.shape) :
    AllMadeOf good (scope.wrapperClass entry) := by
  let data : Code := [ClientType.named scope.plainHome entry.name, genericList entry]
  have plainMade : (ClientType.named scope.plainHome entry.name).MadeOf good := by
    simpa [ClientType.MadeOf, ClientType.leaves] using plain
  have dataMade : data.MadeOf good := by simp [data, plainMade]
  have fieldsMade : ∀ property ∈ entry.properties, (scope.field property).MadeOf good := by
    intro property among
    exact madeOf_field (grants property among)
  have functionsMade : ∀ line ∈ scope.wrapperFunctions data entry.properties,
      (if line = [] then line else line.indent).MadeOf good := by
    intro line among
    have lineMade := allMadeOf_wrapperFunctions dataMade grants line among
    split
    · exact lineMade
    · exact madeOf_indent.mpr lineMade
  rw [wrapperClass_eq]
  simpa [allMadeOf_validity, plainMade] using ⟨fieldsMade, functionsMade⟩

end ClientGen.TypeScript

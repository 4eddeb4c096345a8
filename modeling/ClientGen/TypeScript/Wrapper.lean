import ClientGen.Decimal.Style
import ClientGen.TypeScript.Definition

/-!
# Observable wrappers

The wrapper of a class holds its properties in observables, which user interfaces are bound to. It
is loaded from plain data, tells whether it has changed since, and gives plain data back. How a
property is held, `Holding`, decides about all three.
-/

namespace ClientGen.TypeScript

/-- Numbers in a client are written out, and a whole number looks like one. -/
def numberStyle : Decimal.Style where
  positionalFrom := -400
  positionalTo := 400
  wholeMark := ""
  positiveExponent := ""
  tie := .upwards
  notANumber := "NaN"
  infinity := "inf"
  negativeInfinity := "-inf"

/-- How a wrapper holds the value of a property. -/
inductive Holding where
  /-- Outside of observables, because clients do not change it. -/
  | fixed
  /-- A value as it is. -/
  | value
  | date
  /-- An object in its own wrapper. -/
  | wrapper (type : ClientType)
  /-- A list of values as they are. -/
  | values
  | dates
  /-- A list of objects in their own wrappers. -/
  | wrappers (type : ClientType)

/-- Finds out how a wrapper holds a property. Lists and single values are converted, values in other
containers are not. -/
def Scope.writeHolding (scope : Scope) (property : ClassProperty ClassId) : Writing Holding := do
  let wrapper ←
    (match property.shape.layers with
    | [] | [.array] => scope.writeWrapper property.shape
    | _ => return none : Writing (Option ClientType))
  if property.isReadOnly then return .fixed
  else
    return match property.shape.layers, property.shape.kind, wrapper with
      | [], .dateTime, _ => .date
      | [], _, some type => .wrapper type
      | [.array], .dateTime, _ => .dates
      | [.array], _, some type => .wrappers type
      | [.array], _, none => .values
      | _, _, _ => .value

/-- How a wrapper holds a property. -/
def Scope.holding (scope : Scope) (property : ClassProperty ClassId) : Holding :=
  (scope.writeHolding property).value

namespace Holding

/-- Writes the condition that a property has changed. -/
def writeChanged (name : String) : Holding → Writing Code
  | .fixed | .value => return ["this.", name, "() !== this.originalData.", name]
  | .date => do
    Writing.need (.helper .fromDate)
    return [Helper.fromDate, "(this.", name, "()) !== this.originalData.", name]
  | .wrapper _ => return ["(this.", name, "() != undefined && this.", name, "().changed())"]
  | .values => do
    Writing.need (.helper .arrayChanged)
    return [Helper.arrayChanged, "(this.", name, ", this.originalData.", name, ")"]
  | .dates => do
    Writing.need (.helper .dateArrayChanged)
    return [Helper.dateArrayChanged, "(this.", name, ", this.originalData.", name, ")"]
  | .wrappers _ =>
    return ["(this.", name, "() != undefined && (this.", name, "().length !== (this.originalData.",
      name, " || []).length || this.", name, "().some(x => x.changed())))"]

/-- Writes the plain data of a property. -/
def writePlainData (name : String) : Holding → Writing Code
  | .fixed => return ["this.", name]
  | .value | .values => return ["this.", name, "()"]
  | .date => do
    Writing.need (.helper .fromDate)
    return [Helper.fromDate, "(this.", name, "())"]
  | .wrapper _ => return ["this.", name, "() ? this.", name, "().toJs() : undefined"]
  | .dates => return ["this.", name, "() && this.", name, "().map(x => x.toISOString())"]
  | .wrappers _ =>
    return ["this.", name, "() ? this.", name, "().map(x => x.toJs()) : undefined"]

/-- Writes the statement that takes a property from plain data. -/
def writeLoad (name : String) : Holding → Writing Code
  | .fixed => return ["this.", name, " = data.", name, ";"]
  | .value => return ["this.", name, "(data.", name, ");"]
  | .date => do
    Writing.need (.helper .toDate)
    return ["this.", name, "(", Helper.toDate, "(data.", name, "));"]
  | .wrapper type =>
    return ["this.", name, "(data.", name, " ? new ", type, "(data.", name, ") : undefined);"]
  | .values => return ["this.", name, "(data.", name, " || []);"]
  | .dates =>
    return ["this.", name, "(data.", name, " ? data.", name, ".map(x => new Date(x)) : []);"]
  | .wrappers type =>
    return ["this.", name, "(data.", name, " ? data.", name, ".map(x => new ", type, "(x)) : []);"]

/-- The condition that a property has changed. -/
def changed (name : String) (holding : Holding) : Code :=
  (holding.writeChanged name).value

/-- The plain data of a property. -/
def plainData (name : String) (holding : Holding) : Code :=
  (holding.writePlainData name).value

/-- The statement that takes a property from plain data. -/
def load (name : String) (holding : Holding) : Code :=
  (holding.writeLoad name).value

variable (name : String) (holding : Holding)

theorem changed_eq : holding.changed name =
    (match holding with
    | .fixed | .value => ["this.", name, "() !== this.originalData.", name]
    | .date => [Helper.fromDate, "(this.", name, "()) !== this.originalData.", name]
    | .wrapper _ => ["(this.", name, "() != undefined && this.", name, "().changed())"]
    | .values => [Helper.arrayChanged, "(this.", name, ", this.originalData.", name, ")"]
    | .dates => [Helper.dateArrayChanged, "(this.", name, ", this.originalData.", name, ")"]
    | .wrappers _ =>
      ["(this.", name, "() != undefined && (this.", name, "().length !== (this.originalData.", name,
        " || []).length || this.", name, "().some(x => x.changed())))"] : Code) := by
  cases holding <;> rfl

theorem plainData_eq : holding.plainData name =
    (match holding with
    | .fixed => ["this.", name]
    | .value | .values => ["this.", name, "()"]
    | .date => [Helper.fromDate, "(this.", name, "())"]
    | .wrapper _ => ["this.", name, "() ? this.", name, "().toJs() : undefined"]
    | .dates => ["this.", name, "() && this.", name, "().map(x => x.toISOString())"]
    | .wrappers _ => ["this.", name, "() ? this.", name, "().map(x => x.toJs()) : undefined"] :
    Code) := by
  cases holding <;> rfl

theorem load_eq : holding.load name =
    (match holding with
    | .fixed => ["this.", name, " = data.", name, ";"]
    | .value => ["this.", name, "(data.", name, ");"]
    | .date => ["this.", name, "(", Helper.toDate, "(data.", name, "));"]
    | .wrapper type =>
      ["this.", name, "(data.", name, " ? new ", type, "(data.", name, ") : undefined);"]
    | .values => ["this.", name, "(data.", name, " || []);"]
    | .dates =>
      ["this.", name, "(data.", name, " ? data.", name, ".map(x => new Date(x)) : []);"]
    | .wrappers type =>
      ["this.", name, "(data.", name, " ? data.", name, ".map(x => new ", type, "(x)) : []);"] :
    Code) := by
  cases holding <;> rfl

end Holding

/-- A property and how it is held. -/
structure Member where
  property : ClassProperty ClassId
  holding : Holding

/-- Whether the observable of a property validates its value. -/
def isValidated (property : ClassProperty ClassId) : Bool :=
  !property.isReadOnly && property.shape.layers.isEmpty && !property.constraints.isEmpty

/-- The bounds that a number has to keep. -/
def rangeValidator (constraints : Constraints) : List Code :=
  match constraints.minimum, constraints.maximum with
  | some minimum, some maximum =>
    [[Helper.validation, ".isInRange(", numberStyle.spell minimum, ", ",
      numberStyle.spell maximum, ")"]]
  | none, some maximum => [[Helper.validation, ".isAtMost(", numberStyle.spell maximum, ")"]]
  | some minimum, none => [[Helper.validation, ".isAtLeast(", numberStyle.spell minimum, ")"]]
  | none, none => []

/-- The validators for some constraints. -/
def validators (constraints : Constraints) : List Code :=
  Code.stack
    [if constraints.required then [[Helper.validation, ".isRequired"]] else [],
      Code.given constraints.compare fun (other : String) =>
        [Helper.validation, ".areSame(this.", other, ")"],
      Code.given constraints.minLength fun length =>
        [Helper.validation, ".hasMinLength(", toString length, ")"],
      Code.given constraints.maxLength fun length =>
        [Helper.validation, ".hasMaxLength(", toString length, ")"],
      if constraints.format = .email then [[Helper.validation, ".isEmail"]] else [],
      rangeValidator constraints]

/-- Writes the condition that all values in a wrapper are valid, if any are validated. -/
def writeValidity (properties : List (ClassProperty ClassId)) : Writing (List Code) :=
  match properties.filter isValidated with
  | [] => return []
  | validated => do
    Writing.need (.helper .loading)
    return [[], Code.indent <| Code.row
      [["public isValid = ko.pureComputed(() => !", Helper.loading, "()"],
        validated.flatMap fun property =>
          [" && !this.", property.name, ".validating() && !this.", property.name,
            ".errorMessage()"],
        [");"]]]

namespace Scope

/-- Writes the declaration of a property in a wrapper. -/
def writeField (scope : Scope) (property : ClassProperty ClassId) : Writing Code := do
  let shape := property.shape
  if property.isReadOnly then
    let type ← scope.writeType false shape
    return [property.name, ": ", type, ";"]
  else if shape.layers = [.array] then
    let element ← scope.writeElementType true shape
    return [property.name, " = ko.observableArray<", element, ">();"]
  else if isValidated property then
    let type ← scope.writeType true shape
    Writing.need (.helper .validation)
    return Code.row
      [[property.name, " = ", Helper.validation, ".validableObservable<", type, ">()"],
        (validators property.constraints).flatMap fun validator =>
          Code.row [[".addValidator("], validator, [")"]],
        [";"]]
  else
    let type ← scope.writeType shape.layers.isEmpty shape
    return [property.name, " = ko.observable<", type, ">();"]

/-- Finds out how a wrapper holds a property, and keeps it with the property. -/
def writeMember (scope : Scope) (property : ClassProperty ClassId) : Writing Member := do
  let holding ← scope.writeHolding property
  return { property, holding }

end Scope

namespace Member

/-- Writes the condition that some property of a wrapper has changed. -/
def writeChangedCondition (members : List Member) : Writing Code :=
  match members.filter fun member => !member.property.isReadOnly with
  | [] => return ["false"]
  | changing => do
    let conditions ← Writing.each
      (fun member : Member => member.holding.writeChanged member.property.name) changing
    return Code.join " ||\n            " conditions

/-- Writes a field of the plain data of a wrapper. -/
def writePlainField (member : Member) : Writing Code := do
  let data ← member.holding.writePlainData member.property.name
  return Code.row [[member.property.name, ": "], data, [","]]

/-- Writes the functions of a wrapper, whose plain data has a type as written in `data`. -/
def writeFunctions (data : Code) (members : List Member) : Writing (List Code) := do
  let changed ← writeChangedCondition members
  let fields ← Writing.each writePlainField members
  let loads ← Writing.each
    (fun member : Member => member.holding.writeLoad member.property.name) members
  return Code.stack
    [[[],
        Code.row [["constructor(data: "], data, [") \x7b"]],
        ["    this.load(data);"],
        ["    this.changed = ko.pureComputed(() =>"],
        Code.indent (Code.indent changed),
        ["    );"],
        ["\x7d"],
        [],
        Code.row [["public toJs(): "], data, [" \x7b"]],
        ["    return \x7b"]],
      fields.map fun field => Code.indent (Code.indent field),
      [["    \x7d;"],
        ["\x7d"],
        [],
        Code.row [["public load(data: "], data, [") \x7b"]],
        ["    this.originalData = data;"]],
      loads.map Code.indent,
      [["\x7d"]]]

end Member

namespace Scope

/-- Writes a field of a wrapper with its documentation. -/
def writeFieldLines (scope : Scope) (property : ClassProperty ClassId) :
    Writing (List Code) := do
  let field ← scope.writeField property
  return [] :: documented property.documentation field

/-- Writes the wrapper of a class. -/
def writeWrapperClass (scope : Scope) (entry : ClassEntry ClassId) : Writing (List Code) := do
  let generics := genericList entry
  let data : Code := [ClientType.named scope.plainHome entry.name, generics]
  let members ← Writing.each scope.writeMember entry.properties
  let fields ← Writing.each scope.writeFieldLines entry.properties
  let functions ← Member.writeFunctions data members
  let validity ← writeValidity entry.properties
  return Code.stack
    [[[]], Code.comment entry.documentation,
      [["export class ", entry.name, scope.wrapperSuffix, generics, " \x7b"],
        Code.indent (Code.row [["originalData: "], data, [";"]]),
        Code.indent ["changed: KnockoutComputed<boolean>;"]],
      fields.flatten,
      functions.map fun line => if line.isEmpty then line else Code.indent line,
      validity, [["\x7d"]]]

/-- Writes the wrappers of all classes that have one. -/
def writeWrapperClasses (scope : Scope) : Writing (List Code) := do
  let wrappers ← Writing.each scope.writeWrapperClass
    (scope.table.classes.filter scope.hasWrapper)
  return wrappers.flatten

end Scope

/-! ### What is written -/

/-- The condition that all values in a wrapper are valid, if any are validated. -/
def validity (properties : List (ClassProperty ClassId)) : List Code :=
  (writeValidity properties).value

namespace Scope

/-- A property and how a wrapper holds it. -/
def member (scope : Scope) (property : ClassProperty ClassId) : Member :=
  (scope.writeMember property).value

/-- The declaration of a property in a wrapper. -/
def field (scope : Scope) (property : ClassProperty ClassId) : Code :=
  (scope.writeField property).value

/-- The condition that some property of a wrapper has changed. -/
def changedCondition (scope : Scope) (properties : List (ClassProperty ClassId)) : Code :=
  (Member.writeChangedCondition (properties.map scope.member)).value

/-- The plain data of a wrapper, field by field. -/
def plainFields (scope : Scope) (properties : List (ClassProperty ClassId)) : List Code :=
  (Writing.each Member.writePlainField (properties.map scope.member)).value

/-- The functions of a wrapper, whose plain data has a type as written in `data`. -/
def wrapperFunctions (scope : Scope) (data : Code) (properties : List (ClassProperty ClassId)) :
    List Code :=
  (Member.writeFunctions data (properties.map scope.member)).value

/-- The wrapper of a class. -/
def wrapperClass (scope : Scope) (entry : ClassEntry ClassId) : List Code :=
  (scope.writeWrapperClass entry).value

end Scope

theorem validity_eq (properties : List (ClassProperty ClassId)) : validity properties =
    match properties.filter isValidated with
    | [] => []
    | validated =>
      [[], Code.indent <| Code.row
        [["public isValid = ko.pureComputed(() => !", Helper.loading, "()"],
          validated.flatMap fun property =>
            [" && !this.", property.name, ".validating() && !this.", property.name,
              ".errorMessage()"],
          [");"]]] := by
  unfold validity writeValidity
  split
  · rfl
  · simp only [Writing.value_bind, Writing.value_pure]

namespace Scope

variable (scope : Scope) (property : ClassProperty ClassId)
  (properties : List (ClassProperty ClassId))

theorem holding_eq : scope.holding property =
    if property.isReadOnly then .fixed
    else
      match property.shape.layers, property.shape.kind, scope.wrapper? property.shape with
      | [], .dateTime, _ => .date
      | [], _, some type => .wrapper type
      | [.array], .dateTime, _ => .dates
      | [.array], _, some type => .wrappers type
      | [.array], _, none => .values
      | _, _, _ => .value := by
  unfold holding writeHolding
  simp only [Writing.value_bind]
  split
  · rfl
  · rw [Writing.value_pure]
    rcases property.shape.layers with _ | ⟨layer, _ | ⟨next, others⟩⟩
    · rfl
    · cases layer <;> rfl
    · cases layer <;> rfl

theorem member_eq : scope.member property = ⟨property, scope.holding property⟩ := by
  simp [member, writeMember, holding]

theorem field_eq : scope.field property =
    (if property.isReadOnly then [property.name, ": ", scope.typeOf false property.shape, ";"]
    else if property.shape.layers = [.array] then
      [property.name, " = ko.observableArray<", scope.elementType true property.shape, ">();"]
    else if isValidated property then
      Code.row
        [[property.name, " = ", Helper.validation, ".validableObservable<",
            scope.typeOf true property.shape, ">()"],
          (validators property.constraints).flatMap fun validator =>
            Code.row [[".addValidator("], validator, [")"]],
          [";"]]
    else
      [property.name, " = ko.observable<",
        scope.typeOf property.shape.layers.isEmpty property.shape, ">();"] : Code) := by
  unfold field writeField
  dsimp only
  split
  · simp [typeOf]
  · split
    · simp [elementType]
    · split <;> simp [typeOf]

theorem changedCondition_eq : scope.changedCondition properties =
    match properties.filter fun property => !property.isReadOnly with
    | [] => ["false"]
    | changing =>
      Code.join " ||\n            " (changing.map fun property =>
        (scope.holding property).changed property.name) := by
  have changing : (properties.map scope.member).filter (fun member => !member.property.isReadOnly) =
      (properties.filter fun property => !property.isReadOnly).map scope.member := by
    simp [List.filter_map, Function.comp_def, member_eq]
  rw [changedCondition, Member.writeChangedCondition, changing]
  cases properties.filter fun property => !property.isReadOnly with
  | nil => rfl
  | cons first others => simp [member_eq, Function.comp_def, Holding.changed]

theorem plainFields_eq : scope.plainFields properties =
    properties.map fun property =>
      Code.row
        [[property.name, ": "], (scope.holding property).plainData property.name, [","]] := by
  simp [plainFields, Member.writePlainField, member_eq, Holding.plainData]

theorem wrapperFunctions_eq (data : Code) : scope.wrapperFunctions data properties =
    Code.stack
      [[[],
          Code.row [["constructor(data: "], data, [") \x7b"]],
          ["    this.load(data);"],
          ["    this.changed = ko.pureComputed(() =>"],
          Code.indent (Code.indent (scope.changedCondition properties)),
          ["    );"],
          ["\x7d"],
          [],
          Code.row [["public toJs(): "], data, [" \x7b"]],
          ["    return \x7b"]],
        (scope.plainFields properties).map fun field => Code.indent (Code.indent field),
        [["    \x7d;"],
          ["\x7d"],
          [],
          Code.row [["public load(data: "], data, [") \x7b"]],
          ["    this.originalData = data;"]],
        properties.map fun property =>
          Code.indent ((scope.holding property).load property.name),
        [["\x7d"]]] := by
  simp [wrapperFunctions, Member.writeFunctions, changedCondition, plainFields, member_eq,
    Holding.load, Function.comp_def]

theorem wrapperClass_eq (entry : ClassEntry ClassId) : scope.wrapperClass entry =
    let generics := genericList entry
    let data : Code := [ClientType.named scope.plainHome entry.name, generics]
    Code.stack
      [[[]], Code.comment entry.documentation,
        [["export class ", entry.name, scope.wrapperSuffix, generics, " \x7b"],
          Code.indent (Code.row [["originalData: "], data, [";"]]),
          Code.indent ["changed: KnockoutComputed<boolean>;"]],
        entry.properties.flatMap fun property =>
          [] :: documented property.documentation (scope.field property),
        (scope.wrapperFunctions data entry.properties).map fun line =>
          if line.isEmpty then line else Code.indent line,
        validity entry.properties, [["\x7d"]]] := by
  simp only [wrapperClass, writeWrapperClass, writeFieldLines, Writing.value_bind,
    Writing.value_each, Writing.value_pure, List.flatMap_def]
  rfl

theorem value_writeWrapperClasses : scope.writeWrapperClasses.value =
    (scope.table.classes.filter scope.hasWrapper).flatMap scope.wrapperClass := by
  simp only [writeWrapperClasses, Writing.value_bind, Writing.value_each, Writing.value_pure,
    List.flatMap_def]
  rfl

end Scope

end ClientGen.TypeScript

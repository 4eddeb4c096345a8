import ClientGen.Model.Validate
import ClientGen.TypeScript.ClientType
import ClientGen.TypeScript.Writing

/-!
# From shapes to types

What type a shape has in a client depends on the module that mentions it: classes are found here or
in another module, and there may be wrappers. `Scope` holds what a module knows about that. A type
is *live* where it describes the content of observables: dates are objects there, and classes with a
wrapper are held by it. Type arguments always describe plain values.

A shape can be written when the classes it names can be found; the type of any other shape has a
gap for each class that cannot. The module of a class is noted whenever the class is written and is
found in another module.
-/

namespace ClientGen.TypeScript

/-- What a module knows about classes. -/
structure Scope where
  table : ClassTable ClassId
  /-- Whether classes get wrappers. -/
  observable : Bool
  /-- Where the plain classes are found. -/
  plainHome : Home
  /-- Where the wrappers are found. -/
  wrapperHome : Home
  /-- What is added to the name of a class for its wrapper. -/
  wrapperSuffix : String

namespace Scope

/-- Whether a class has a wrapper: clients send it, and there is something in it to change. -/
def hasWrapper (scope : Scope) (entry : ClassEntry ClassId) : Bool :=
  scope.observable && entry.isObservable && !entry.isReadOnly &&
    entry.properties.any fun property => !property.isReadOnly

/-- The class that a shape refers to. -/
def classOf (scope : Scope) (shape : Shape ClassId) : Except Failure (ClassEntry ClassId) := do
  match ← shape.checkedReference with
  | none => .error (.missingClass shape.kind.name)
  | some id =>
    match scope.table.at? id with
    | none => .error (.unregistered id)
    | some entry => .ok entry

/-- The wrapper of a class. -/
def wrapperType (scope : Scope) (entry : ClassEntry ClassId) : ClientType :=
  .named scope.wrapperHome (entry.name ++ scope.wrapperSuffix)

/-- Writes the name of a class. -/
def writePlainName (scope : Scope) (entry : ClassEntry ClassId) : Writing ClientType := do
  Writing.needIf (scope.plainHome != .here) .views
  return .named scope.plainHome entry.name

/-- Writes the name of the wrapper of a class. -/
def writeWrapperName (scope : Scope) (entry : ClassEntry ClassId) : Writing ClientType := do
  Writing.needIf (scope.wrapperHome != .here) .wrappers
  return scope.wrapperType entry

/-- Writes the wrapper of the objects in a shape, if they have one. -/
def writeWrapper (scope : Scope) (shape : Shape ClassId) : Writing (Option ClientType) :=
  if shape.kind = .object then
    match scope.classOf shape with
    | .ok entry =>
      if scope.hasWrapper entry then do
        let wrapper ← scope.writeWrapperName entry
        return some wrapper
      else return none
    | .error failure => return some (.gap failure)
  else return none

/-- Writes the class of a shape or, when it is live and has one, its wrapper. -/
def writeClass (scope : Scope) (live : Bool) (shape : Shape ClassId) : Writing ClientType :=
  match scope.classOf shape with
  | .ok entry =>
    if live && scope.hasWrapper entry then scope.writeWrapperName entry
    else scope.writePlainName entry
  | .error failure => return .gap failure

/-- The type of the values in a layer. -/
def layerType : Layer → ClientType → ClientType
  | .array, type => .array type
  | .dictionary, type => .dictionary type

mutual

/-- Writes the type of a shape. -/
def writeType (scope : Scope) (live : Bool) : Shape ClassId → Writing ClientType
  | ⟨kind, reference, layers, nullable, _, arguments, parameterName, alternatives⟩ => do
    let base ←
      (match kind with
      | .boolean => return .word "boolean"
      | .int | .long | .float | .double | .decimal | .byte => return .word "number"
      | .string | .guid | .timeSpan => return .word "string"
      | .dateTime => return .word (if live then "Date" else "string")
      | .any => return .word "any"
      | .genericParameter => return .word (parameterName.getD "any")
      | .union => do
        match ← writeTypesOfOption scope live alternatives with
        | some (type :: types) => return .union (type :: types)
        | _ => return .word "any"
      | .enum => scope.writeClass false { kind, reference }
      | .object => do
        let own ← scope.writeClass live { kind, reference }
        match ← writeTypesOfOption scope false arguments with
        | some types => return .apply own types
        | none => return own : Writing ClientType)
    let type := ClientType.inLayers layerType layers base
    return if nullable then .orNull type else type

/-- Writes the types of some shapes that may be missing. -/
def writeTypesOfOption (scope : Scope) (live : Bool) :
    Option (List (Shape ClassId)) → Writing (Option (List ClientType))
  | none => return none
  | some shapes => do
    let types ← writeTypes scope live shapes
    return some types

/-- Writes the types of some shapes. -/
def writeTypes (scope : Scope) (live : Bool) : List (Shape ClassId) → Writing (List ClientType)
  | [] => return []
  | shape :: shapes => do
    let type ← writeType scope live shape
    let types ← writeTypes scope live shapes
    return type :: types

end

/-- Writes the type of the elements of a list. -/
def writeElementType (scope : Scope) (live : Bool) (shape : Shape ClassId) : Writing ClientType :=
  scope.writeType live { shape with layers := shape.layers.tail, nullable := false }

/-! ### What is written -/

/-- The wrapper of the objects in a shape, if they have one. -/
def wrapper? (scope : Scope) (shape : Shape ClassId) : Option ClientType :=
  (scope.writeWrapper shape).value

/-- The type of the class of a shape or, when it is live and has one, of its wrapper. -/
def classType (scope : Scope) (live : Bool) (shape : Shape ClassId) : ClientType :=
  (scope.writeClass live shape).value

/-- The type of a shape. -/
def typeOf (scope : Scope) (live : Bool) (shape : Shape ClassId) : ClientType :=
  (scope.writeType live shape).value

/-- The types of some shapes that may be missing. -/
def typesOfOption (scope : Scope) (live : Bool) (shapes : Option (List (Shape ClassId))) :
    Option (List ClientType) :=
  (scope.writeTypesOfOption live shapes).value

/-- The types of some shapes. -/
def typesOf (scope : Scope) (live : Bool) (shapes : List (Shape ClassId)) : List ClientType :=
  (scope.writeTypes live shapes).value

/-- The type of the elements of a list. -/
def elementType (scope : Scope) (live : Bool) (shape : Shape ClassId) : ClientType :=
  (scope.writeElementType live shape).value

variable (scope : Scope) (live : Bool) (shape : Shape ClassId)

theorem wrapper?_eq : scope.wrapper? shape =
    if shape.kind = .object then
      match scope.classOf shape with
      | .ok entry => if scope.hasWrapper entry then some (scope.wrapperType entry) else none
      | .error failure => some (.gap failure)
    else none := by
  unfold wrapper? writeWrapper
  split
  · cases scope.classOf shape with
    | ok entry => by_cases wraps : scope.hasWrapper entry <;> simp [wraps, writeWrapperName]
    | error failure => rfl
  · rfl

theorem classType_eq : scope.classType live shape =
    match scope.classOf shape with
    | .ok entry =>
      if live && scope.hasWrapper entry then scope.wrapperType entry
      else .named scope.plainHome entry.name
    | .error failure => .gap failure := by
  unfold classType writeClass
  cases scope.classOf shape with
  | ok entry =>
    by_cases wraps : live && scope.hasWrapper entry <;>
      simp [wraps, writeWrapperName, writePlainName]
  | error failure => rfl

theorem typeOf_mk (kind : Shape.Kind) (reference : Option ClassId) (layers : List Layer)
    (nullable optional : Bool) (arguments alternatives : Option (List (Shape ClassId)))
    (parameterName : Option String) :
    scope.typeOf live
        ⟨kind, reference, layers, nullable, optional, arguments, parameterName, alternatives⟩ =
      let base :=
        match kind with
        | .boolean => .word "boolean"
        | .int | .long | .float | .double | .decimal | .byte => .word "number"
        | .string | .guid | .timeSpan => .word "string"
        | .dateTime => .word (if live then "Date" else "string")
        | .any => .word "any"
        | .genericParameter => .word (parameterName.getD "any")
        | .union =>
          match scope.typesOfOption live alternatives with
          | some (type :: types) => .union (type :: types)
          | _ => .word "any"
        | .enum => scope.classType false { kind, reference }
        | .object =>
          match scope.typesOfOption false arguments with
          | some types => .apply (scope.classType live { kind, reference }) types
          | none => scope.classType live { kind, reference }
      let type := ClientType.inLayers layerType layers base
      if nullable then .orNull type else type := by
  unfold typeOf writeType typesOfOption
  cases kind with
  | object =>
    cases found : (scope.writeTypesOfOption false arguments).value <;> simp [found, classType]
  | union =>
    rcases found : (scope.writeTypesOfOption live alternatives).value with _ | _ | _ <;>
      simp [found]
  | _ => simp [classType]

theorem typesOfOption_none : scope.typesOfOption live none = none := by
  rfl

theorem typesOfOption_some (shapes : List (Shape ClassId)) :
    scope.typesOfOption live (some shapes) = some (scope.typesOf live shapes) := by
  simp [typesOfOption, writeTypesOfOption, typesOf]

theorem typesOf_nil : scope.typesOf live [] = [] := by
  rfl

theorem typesOf_cons (shapes : List (Shape ClassId)) :
    scope.typesOf live (shape :: shapes) =
      scope.typeOf live shape :: scope.typesOf live shapes := by
  simp [typesOf, writeTypes, typeOf]

theorem elementType_eq : scope.elementType live shape =
    scope.typeOf live { shape with layers := shape.layers.tail, nullable := false } :=
  rfl

end Scope

end ClientGen.TypeScript

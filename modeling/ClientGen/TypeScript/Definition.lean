import ClientGen.TypeScript.Code
import ClientGen.TypeScript.Scope

/-!
# Definitions of classes

A class of the model becomes an interface, and an enumeration becomes a constant one.
-/

namespace ClientGen.TypeScript

/-- The generic parameters of a class as they follow its name. -/
def genericList (entry : ClassEntry ClassId) : String :=
  match entry.genericParameters with
  | some (name :: names) => "<" ++ ", ".intercalate (name :: names) ++ ">"
  | _ => ""

/-- A line behind its documentation, inside a class. -/
def documented (documentation : Option String) (line : Code) : List Code :=
  (Code.comment documentation ++ [line]).map Code.indent

/-- The members of an enumeration, with commas between them. -/
def enumLines : List EnumValue → List Code
  | [] => [[]]
  | [value] => enumMember value ""
  | value :: others => enumMember value "," ++ [] :: enumLines others
where
  /-- A member of an enumeration with what follows it. -/
  enumMember (value : EnumValue) (mark : String) : List Code :=
    documented value.documentation [value.name, " = ", toString value.value, mark]

namespace Scope

/-- Writes the declaration of a property. -/
def writeProperty (scope : Scope) (property : ClassProperty ClassId) : Writing (List Code) := do
  let type ← scope.writeType false property.shape
  return documented property.documentation
    [property.name, if property.shape.optional then "?: " else ": ", type, ";"]

/-- Writes the definition of a class. -/
def writeDefinition (scope : Scope) (entry : ClassEntry ClassId) : Writing (List Code) :=
  match entry.body with
  | .object properties => do
    let declarations ← Writing.each scope.writeProperty properties
    return Code.stack
      [[[]], Code.comment entry.documentation,
        [["export interface ", entry.name, genericList entry, " \x7b"]],
        Code.separated declarations, [["\x7d"]]]
  | .enum values =>
    return Code.stack
      [[[]], Code.comment entry.documentation, [["export const enum ", entry.name, " \x7b"]],
        enumLines values, [["\x7d"]]]

/-- Writes the definitions of all classes. -/
def writeDefinitions (scope : Scope) : Writing (List Code) := do
  let definitions ← Writing.each scope.writeDefinition scope.table.classes
  return definitions.flatten

/-! ### What is written -/

/-- The declaration of a property. -/
def property (scope : Scope) (property : ClassProperty ClassId) : List Code :=
  (scope.writeProperty property).value

/-- The definition of a class. -/
def definition (scope : Scope) (entry : ClassEntry ClassId) : List Code :=
  (scope.writeDefinition entry).value

variable (scope : Scope)

theorem property_eq (property : ClassProperty ClassId) : scope.property property =
    documented property.documentation
      [property.name, if property.shape.optional then "?: " else ": ",
        scope.typeOf false property.shape, ";"] := by
  simp [Scope.property, writeProperty, typeOf]

theorem definition_eq (entry : ClassEntry ClassId) : scope.definition entry =
    match entry.body with
    | .object properties =>
      Code.stack
        [[[]], Code.comment entry.documentation,
          [["export interface ", entry.name, genericList entry, " \x7b"]],
          Code.separated (properties.map scope.property), [["\x7d"]]]
    | .enum values =>
      Code.stack
        [[[]], Code.comment entry.documentation, [["export const enum ", entry.name, " \x7b"]],
          enumLines values, [["\x7d"]]] := by
  unfold definition writeDefinition
  cases entry.body with
  | object properties =>
    simp only [Writing.value_bind, Writing.value_each, Writing.value_pure]
    rfl
  | enum values => rfl

theorem value_writeDefinitions :
    scope.writeDefinitions.value = scope.table.classes.flatMap scope.definition := by
  simp only [writeDefinitions, Writing.value_bind, Writing.value_each, Writing.value_pure,
    List.flatMap_def]
  rfl

end Scope

end ClientGen.TypeScript

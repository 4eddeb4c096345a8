import ClientGen.Collections.Ordered
import ClientGen.Collections.Reach
import ClientGen.Model.Constraints
import ClientGen.Model.Shape

/-!
# Classes

The classes and enumerations of a model, in the order of their registration and each under one name.
Shapes refer to a class by its place in the table, which it keeps from its registration on.
-/

namespace ClientGen

/-- A reference to a class by its place in the table. -/
abbrev ClassId := Nat

/-- A property of a class. -/
structure ClassProperty (ρ : Type) where
  /-- The client's name. -/
  name : String
  shape : Shape ρ
  documentation : Option String := none
  isReadOnly : Bool
  constraints : Constraints := {}

/-- A member of an enumeration. -/
structure EnumValue where
  name : String
  value : Int
  documentation : Option String := none
  deriving DecidableEq, Repr

/-- What a class is made of. -/
inductive ClassBody (ρ : Type) where
  | object (properties : List (ClassProperty ρ))
  | enum (values : List EnumValue)

/-- A class or an enumeration. -/
structure ClassEntry (ρ : Type) where
  /-- The client's name. -/
  name : String
  /-- The qualified name of the declaration that registered the class. -/
  sourceName : String
  documentation : Option String := none
  body : ClassBody ρ
  genericParameters : Option (List String) := none
  /-- Whether clients never send values of the class. -/
  isReadOnly : Bool := true
  /-- Whether the class may have an observable wrapper. -/
  isObservable : Bool := false
  /-- The version of the action for which the class was registered. -/
  version : Option String := none

namespace ClassEntry

variable {ρ : Type}

/-- Whether this is an enumeration. -/
def isEnum (entry : ClassEntry ρ) : Bool :=
  match entry.body with
  | .enum _ => true
  | .object _ => false

/-- The properties; an enumeration has none. -/
def properties (entry : ClassEntry ρ) : List (ClassProperty ρ) :=
  match entry.body with
  | .object properties => properties
  | .enum _ => []

/-- The members of an enumeration; other classes have none. -/
def values (entry : ClassEntry ρ) : List EnumValue :=
  match entry.body with
  | .enum values => values
  | .object _ => []

/-- Replaces the properties; an enumeration has none to replace. -/
def withProperties (properties : List (ClassProperty ρ)) (entry : ClassEntry ρ) : ClassEntry ρ :=
  match entry.body with
  | .object _ => { entry with body := .object properties }
  | .enum _ => entry

end ClassEntry

/-- The classes of a model, each under its name. -/
structure ClassTable (ρ : Type) where
  entries : List (String × ClassEntry ρ) := []

namespace ClassTable

variable {ρ : Type}

/-- The place of a name. -/
def indexOf? (name : String) (table : ClassTable ρ) : Option Nat :=
  Ordered.indexOf? name table.entries

/-- The class at a place. -/
def at? (index : Nat) (table : ClassTable ρ) : Option (ClassEntry ρ) :=
  table.entries[index]?.map (·.2)

/-- The class of a name. -/
def find? (name : String) (table : ClassTable ρ) : Option (ClassEntry ρ) :=
  Ordered.find? name table.entries

/-- Registers a class under its name; a class of that name is replaced and keeps its place. -/
def register (entry : ClassEntry ρ) (table : ClassTable ρ) : ClassTable ρ :=
  ⟨Ordered.insert entry.name entry table.entries⟩

/-- The classes in order. -/
def classes (table : ClassTable ρ) : List (ClassEntry ρ) :=
  table.entries.map (·.2)

/-- The number of classes. -/
def size (table : ClassTable ρ) : Nat :=
  table.entries.length

/-- The place that a class of this name gets when it is registered. -/
def placeFor (name : String) (table : ClassTable ρ) : Nat :=
  (table.indexOf? name).getD table.size

/-- Gives the class at a place its properties. -/
def fill (index : Nat) (properties : List (ClassProperty ρ)) (table : ClassTable ρ) :
    ClassTable ρ :=
  ⟨table.entries.modify index fun (name, entry) => (name, entry.withProperties properties)⟩

/-- The classes that objects of the class at a place hold as values of their properties. -/
def objectEdges (table : ClassTable ClassId) (index : ClassId) : List ClassId :=
  match table.at? index with
  | none => []
  | some entry => entry.properties.filterMap fun property =>
      if property.shape.kind == .object then property.shape.reference else none

/-- The places of the classes that clients may send. -/
def writableIndices (table : ClassTable ρ) : List Nat :=
  (List.range table.size).filter fun index =>
    (table.at? index).any fun entry => !entry.isReadOnly

/-- Marks the classes at some places as sent by clients. -/
def unlock (indices : List Nat) (table : ClassTable ρ) : ClassTable ρ :=
  ⟨table.entries.mapIdx fun index (name, entry) =>
    (name, if index ∈ indices then { entry with isReadOnly := false } else entry)⟩

/-- Marks a class as sent by clients, and with it the classes of the objects it holds, directly or
through others. A class that was marked before is not gone into again. -/
def makeWritable (index : ClassId) (table : ClassTable ClassId) : ClassTable ClassId :=
  table.unlock (reach table.objectEdges (table.size + 1) table.writableIndices index)

end ClassTable

end ClientGen

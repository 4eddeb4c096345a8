/-!
# Shapes

The shape of a value in the model: what kind of value it is, and the container layers around it,
outermost first. A shape refers to a class by a reference of type `ρ`. In a model references are
places in the table of classes; what a shape means by itself is told with names in their stead.

Only some kinds make use of the other fields, but a shape that was read from a file may carry any of
them; whether a shape makes sense is a question for `ClientGen.Model.Validate`.
-/

namespace ClientGen

/-- What kind of value there is inside the layers. -/
inductive Shape.Kind where
  | object
  | enum
  | string
  | int
  | long
  | float
  | double
  | decimal
  | boolean
  | dateTime
  | guid
  | timeSpan
  | byte
  | any
  | union
  | genericParameter
  deriving DecidableEq, Repr, Inhabited

/-- The name of a kind. -/
def Shape.Kind.name : Shape.Kind → String
  | .object => "Object"
  | .enum => "Enum"
  | .string => "String"
  | .int => "Int"
  | .long => "Long"
  | .float => "Float"
  | .double => "Double"
  | .decimal => "Decimal"
  | .boolean => "Boolean"
  | .dateTime => "DateTime"
  | .guid => "Guid"
  | .timeSpan => "TimeSpan"
  | .byte => "Byte"
  | .any => "Any"
  | .union => "Union"
  | .genericParameter => "GenericParameter"

/-- The kinds, in the order of their names in messages. -/
def Shape.Kind.all : List Shape.Kind :=
  [.object, .enum, .string, .int, .long, .float, .double, .decimal, .boolean, .dateTime, .guid,
    .timeSpan, .byte, .any, .union, .genericParameter]

/-- A container around a value. -/
inductive Layer where
  | array
  | dictionary
  deriving DecidableEq, Repr

/-- The shape of a value. -/
structure Shape (ρ : Type) where
  kind : Shape.Kind
  /-- The class of an object or an enumeration. -/
  reference : Option ρ := none
  /-- The containers around the value, outermost first. -/
  layers : List Layer := []
  nullable : Bool := false
  optional : Bool := false
  /-- The type arguments of a generic class. -/
  arguments : Option (List (Shape ρ)) := none
  /-- The name of a generic parameter. -/
  parameterName : Option String := none
  /-- The alternatives of a union. -/
  alternatives : Option (List (Shape ρ)) := none
  deriving Inhabited, Repr

namespace Shape

variable {ρ : Type}

/-- Whether the value is a list. -/
def isCollection (shape : Shape ρ) : Bool :=
  shape.layers.head? == some .array

/-- Whether the value is a dictionary. -/
def isDictionary (shape : Shape ρ) : Bool :=
  shape.layers.head? == some .dictionary

/-- Whether the value is an object without a container around it. -/
def isPlainObject (shape : Shape ρ) : Bool :=
  shape.kind == .object && shape.layers.isEmpty

/-- Whether the kind of the value needs a class. -/
def needsClass (shape : Shape ρ) : Bool :=
  shape.kind == .object || shape.kind == .enum

end Shape

end ClientGen

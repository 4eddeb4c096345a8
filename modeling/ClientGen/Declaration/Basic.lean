import ClientGen.Declaration.Attribute

/-!
# Declarations

A declared type with its members, as the server's side describes it: a class, a struct, an
interface or an enumeration. Members keep the order in which they are declared.
-/

namespace ClientGen

/-- A property of a class. -/
structure Property where
  name : String
  type : TypeExpr
  nullable : Bool := false
  attributes : List Attribute := []

/-- A parameter of a method. -/
structure Parameter where
  name : String
  type : TypeExpr
  /-- Whether a default value is declared. -/
  isOptional : Bool := false
  nullable : Bool := false
  attributes : List Attribute := []

/-- A method of a controller. -/
structure Method where
  name : String
  parameters : List Parameter := []
  returnType : TypeExpr := .void
  attributes : List Attribute := []
  isPublic : Bool := true
  /-- Whether the compiler made the method for an accessor or an operator. -/
  isSpecial : Bool := false

/-- A member of an enumeration. -/
structure EnumMember where
  name : String
  value : Int
  deriving DecidableEq, Repr

/-- What a declaration declares. -/
inductive Declaration.Kind where
  | classType
  | struct
  | interface
  | enum
  deriving DecidableEq, Repr

/-- A declared type. -/
structure Declaration where
  /-- The qualified name with its arity marker. -/
  name : String := ""
  kind : Declaration.Kind := .classType
  base : Option String := none
  interfaces : List TypeExpr := []
  genericParameters : List String := []
  attributes : List Attribute := []
  properties : List Property := []
  methods : List Method := []
  values : List EnumMember := []

/-- Whether an enumeration is declared. -/
def Declaration.isEnum (declaration : Declaration) : Bool :=
  declaration.kind == .enum

end ClientGen

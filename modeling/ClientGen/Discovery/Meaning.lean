import ClientGen.Catalog.Basic
import ClientGen.Model.Shape

/-!
# What a type expression means

In the light of a catalog a type expression is a core inside layers of containers, with marks for
values that may be null or left out. `Catalog.meaning` takes the layers off from outside: arrays,
dictionaries and sequences become layers, the wrappers for nullable and optional values become
marks, and what is none of these is the core. A mark for null counts only outside every container;
inside one it would belong to the elements.

The meaning of an expression depends on nothing but the catalog; the declarations in it still have
to become classes before it can be the shape of anything.
-/

namespace ClientGen

mutual

/-- A type expression in the light of a catalog. -/
inductive Meaning where
  | mk (layers : List Layer) (nullable optional : Bool) (core : Core)

/-- What there is inside the layers. -/
inductive Core where
  /-- A value of the framework, or a value nothing is known about. -/
  | plain (kind : Shape.Kind)
  | parameter (name : String)
  | enum (declaration : Declaration)
  | object (declaration : Declaration) (arguments : List Meaning)
  /-- A type that the catalog does not describe. -/
  | undescribed (name : String)

end

/-- Where an expression stands. -/
inductive Place where
  /-- At the very beginning. -/
  | top
  /-- Inside wrappers, but in no container. -/
  | outside
  /-- In a container. -/
  | inside
  deriving DecidableEq

/-- What a generic type is to the reader of expressions. -/
inductive Wrapping where
  /-- A container of the argument at a position. -/
  | container (layer : Layer) (position : Nat)
  | optional
  | nullable
  | none

/-- The kinds of the framework's values, by name without namespace. -/
def primitiveKinds : List (String × Shape.Kind) :=
  [("Boolean", .boolean), ("Int32", .int), ("Int16", .int), ("UInt16", .int), ("SByte", .int),
    ("Int64", .long), ("UInt32", .long), ("UInt64", .long), ("Single", .float),
    ("Double", .double), ("Byte", .byte), ("String", .string), ("Char", .string),
    ("Guid", .guid), ("DateTime", .dateTime), ("DateTimeOffset", .dateTime),
    ("TimeSpan", .timeSpan), ("Decimal", .decimal), ("Object", .any)]

/-- The kind of a framework value, whose name may come with or without its namespace. -/
def primitiveKind? (name : String) : Option Shape.Kind :=
  let short := (Text.dropBeginning? "System.".toList name.toList).getD name.toList
  primitiveKinds.lookup (String.ofList short)

/-- The wrapper of values that may be left out, by last segment. -/
def optionalWrapper : String := "Optional\x601"

namespace Meaning

/-- The meaning without layers and marks. -/
def ofCore (core : Core) : Meaning :=
  .mk [] false false core

/-- Adds a layer outside all others. -/
def within (layer : Layer) : Meaning → Meaning
  | .mk layers nullable optional core => .mk (layer :: layers) nullable optional core

/-- Marks the values as perhaps null, if asked for. -/
def orNull (mark : Bool) : Meaning → Meaning
  | .mk layers nullable optional core => .mk layers (mark || nullable) optional core

/-- Marks the values as perhaps left out. -/
def orAbsent : Meaning → Meaning
  | .mk layers nullable _ core => .mk layers nullable true core

end Meaning

namespace Catalog

/-- What a generic type is; dictionaries are told before sequences. A sequence that does not say
which of its arguments are the elements has them first. -/
def wrapping (catalog : Catalog) (name : String) (count : Nat) : Wrapping :=
  if count == 0 then .none
  else if 2 ≤ count && catalog.implements name dictionaryContracts then .container .dictionary 1
  else if catalog.implements name sequenceContracts then
    let position := (catalog.contractPosition? name sequenceContracts).getD 0
    .container .array (if position < count then position else 0)
  else if QualifiedName.lastSegment name == optionalWrapper then .optional
  else if name == TypeExpr.nullableName then .nullable
  else .none

/-- The core of a type that is no wrapper. -/
def coreOf (catalog : Catalog) (name : String) (arguments : List Meaning) : Core :=
  match primitiveKind? name with
  | some kind => .plain kind
  | none =>
    match catalog.find? name with
    | some declaration =>
      if declaration.isEnum then .enum declaration else .object declaration arguments
    | none => .undescribed name

mutual

/-- The meaning of an expression at a place. -/
def meaningAt (catalog : Catalog) (place : Place) : TypeExpr → Meaning
  | .array element => (catalog.meaningAt .inside element).within .array
  | .parameter name => .ofCore (.parameter name)
  | .void => .ofCore (.plain .any)
  | .named name args =>
    if place = .top ∧ name = TypeExpr.nullableName ∧ args.length = 1 then
      (catalog.meaningOfNth .outside 0 args).orNull true
    else
      let deeper := if place = .inside then Place.inside else .outside
      match catalog.wrapping name args.length with
      | .container layer position => (catalog.meaningOfNth .inside position args).within layer
      | .optional => (catalog.meaningOfNth deeper 0 args).orAbsent
      | .nullable => (catalog.meaningOfNth deeper 0 args).orNull (place != .inside)
      | .none => .ofCore (catalog.coreOf name (catalog.meanings args))

/-- The meaning of the expression at a position of a list. -/
def meaningOfNth (catalog : Catalog) (place : Place) : Nat → List TypeExpr → Meaning
  | _, [] => .ofCore (.plain .any)
  | 0, type :: _ => catalog.meaningAt place type
  | position + 1, _ :: types => catalog.meaningOfNth place position types

/-- The meanings of expressions that stand for themselves. -/
def meanings (catalog : Catalog) : List TypeExpr → List Meaning
  | [] => []
  | type :: types => catalog.meaningAt .top type :: catalog.meanings types

end

/-- The meaning of an expression. -/
def meaning (catalog : Catalog) (type : TypeExpr) : Meaning :=
  catalog.meaningAt .top type

end Catalog

end ClientGen

import ClientGen.QualifiedName

/-!
# Type expressions

What a declaration writes where it uses a type: a name with type arguments, an array of another
type, a generic parameter of the enclosing declaration, or no value at all. The name of a generic
type carries its arity marker, so that two types of one name and different arities stay apart; a
nullable value is the generic type `TypeExpr.nullableName` with one argument.

The text of an expression leaves out what the reader of `ClientGen.TypeExpr.Parse` puts back: the
arity markers, and the name of the nullable wrapper.
-/

namespace ClientGen

/-- A use of a type. -/
inductive TypeExpr where
  | named (name : String) (args : List TypeExpr)
  | array (element : TypeExpr)
  | parameter (name : String)
  | void
  deriving Inhabited, Repr

namespace TypeExpr

mutual

/-- Equality of expressions is decided by structure. -/
def decideEq : (a b : TypeExpr) → Decidable (a = b)
  | .named n as, .named m bs =>
    if hn : n = m then
      match decideEqList as bs with
      | .isTrue has => .isTrue (by rw [hn, has])
      | .isFalse has => .isFalse (by simp [has])
    else .isFalse (by simp [hn])
  | .array a, .array b =>
    match decideEq a b with
    | .isTrue h => .isTrue (by rw [h])
    | .isFalse h => .isFalse (by simp [h])
  | .parameter n, .parameter m =>
    if h : n = m then .isTrue (by rw [h]) else .isFalse (by simp [h])
  | .void, .void => .isTrue rfl
  | .named .., .array _ | .named .., .parameter _ | .named .., .void => .isFalse (by simp)
  | .array _, .named .. | .array _, .parameter _ | .array _, .void => .isFalse (by simp)
  | .parameter _, .named .. | .parameter _, .array _ | .parameter _, .void => .isFalse (by simp)
  | .void, .named .. | .void, .array _ | .void, .parameter _ => .isFalse (by simp)

/-- Equality of argument lists is decided element by element. -/
def decideEqList : (as bs : List TypeExpr) → Decidable (as = bs)
  | [], [] => .isTrue rfl
  | [], _ :: _ => .isFalse (by simp)
  | _ :: _, [] => .isFalse (by simp)
  | a :: as, b :: bs =>
    match decideEq a b with
    | .isTrue h =>
      match decideEqList as bs with
      | .isTrue hs => .isTrue (by rw [h, hs])
      | .isFalse hs => .isFalse (by simp [hs])
    | .isFalse h => .isFalse (by simp [h])

end

instance : DecidableEq TypeExpr := decideEq

/-- The generic type whose one argument may also be null. -/
def nullableName : String := "System.Nullable\x601"

/-- The type with the values of `inner` and null. -/
def nullable (inner : TypeExpr) : TypeExpr :=
  .named nullableName [inner]

/-- The keywords that stand for a framework type, with that type's name. -/
def keywords : List (String × String) :=
  [("bool", "System.Boolean"), ("byte", "System.Byte"), ("sbyte", "System.SByte"),
    ("short", "System.Int16"), ("ushort", "System.UInt16"), ("int", "System.Int32"),
    ("uint", "System.UInt32"), ("long", "System.Int64"), ("ulong", "System.UInt64"),
    ("float", "System.Single"), ("double", "System.Double"), ("decimal", "System.Decimal"),
    ("char", "System.Char"), ("string", "System.String"), ("object", "System.Object")]

/-- The framework name of a keyword; any other name stays as it is. -/
def expandKeyword (name : String) : String :=
  (keywords.lookup name).getD name

/-- A type used by name, without arguments. -/
def ofName (name : String) : TypeExpr :=
  .named (expandKeyword name) []

/-- A generic type applied to arguments. A name without a marker gets the number of arguments as
its arity. -/
def apply (name : String) (args : List TypeExpr) : TypeExpr :=
  if name.toList.contains '\x60' || args.isEmpty then .named name args
  else .named (name ++ "\x60" ++ toString args.length) args

/-- The full name of a named type. -/
def name? : TypeExpr → Option String
  | .named name _ => some name
  | _ => none

/-- The arguments of a named type; other types have none. -/
def args : TypeExpr → List TypeExpr
  | .named _ args => args
  | _ => []

/-- Whether type arguments are given. -/
def isGeneric (ty : TypeExpr) : Bool :=
  !ty.args.isEmpty

/-- Whether this is a named type with the given last segment, arity marker included. -/
def hasLastSegment (segment : String) (ty : TypeExpr) : Bool :=
  match ty.name? with
  | some name => QualifiedName.lastSegment name == segment
  | none => false

mutual

/-- The text of an expression. -/
def toText : TypeExpr → String
  | .named name [] => name
  | .named name [arg] =>
    if name == nullableName then arg.toText ++ "?"
    else QualifiedName.withoutArity name ++ "<" ++ arg.toText ++ ">"
  | .named name (arg :: args) =>
    QualifiedName.withoutArity name ++ "<" ++ arg.toText ++ argsText args ++ ">"
  | .array element => element.toText ++ "[]"
  | .parameter name => "$" ++ name
  | .void => "void"

/-- The texts of the arguments after the first, each behind a comma. -/
def argsText : List TypeExpr → String
  | [] => ""
  | arg :: args => ", " ++ arg.toText ++ argsText args

end

end TypeExpr

end ClientGen

import ClientGen.Failure
import ClientGen.Text.Segment

/-!
# Types of the client

The types that stand in a client, as trees. A tree says which classes it mentions and in which
modules they are found; its text is made last. In the text an array binds tighter than a union, so
an element in which a bar occurs is put in parentheses.

A class that cannot be found leaves a gap in the tree. A client with a gap is never written, so the
text of a gap does not matter.
-/

namespace ClientGen.TypeScript

/-- Where a class is found, seen from the module that mentions it. -/
inductive Home where
  | here
  | views
  | wrappers
  deriving DecidableEq, Repr

/-- What stands before the name of a class. -/
def Home.qualifier : Home → String
  | .here => ""
  | .views => "views."
  | .wrappers => "koViews."

/-- A type of the client. -/
inductive ClientType where
  /-- A type that needs no import. -/
  | word (name : String)
  /-- A class of the model. -/
  | named (home : Home) (name : String)
  | apply (head : ClientType) (arguments : List ClientType)
  | array (element : ClientType)
  /-- An object with values of one type under any keys. -/
  | dictionary (value : ClientType)
  | union (alternatives : List ClientType)
  | orNull (type : ClientType)
  /-- In the place of a class that cannot be found. -/
  | gap (failure : Failure)

namespace ClientType

/-- What separates the alternatives of a union. -/
def bar : List Char := " | ".toList

mutual

/-- The characters of a type. -/
def chars : ClientType → List Char
  | .word name => name.toList
  | .named home name => home.qualifier.toList ++ name.toList
  | .apply head arguments =>
    head.chars ++ '<' :: ", ".toList.intercalate (charsOfAll arguments) ++ ['>']
  | .array element =>
    if Text.occursIn bar element.chars then '(' :: element.chars ++ ")[]".toList
    else element.chars ++ "[]".toList
  | .dictionary value => "\x7b [key: string]: ".toList ++ value.chars ++ " \x7d".toList
  | .union alternatives => bar.intercalate (charsOfAll alternatives)
  | .orNull type => type.chars ++ bar ++ "null".toList
  | .gap _ => []

/-- The characters of each of some types. -/
def charsOfAll : List ClientType → List (List Char)
  | [] => []
  | type :: types => type.chars :: charsOfAll types

end

/-- The text of a type. -/
def text (type : ClientType) : String :=
  String.ofList type.chars

mutual

/-- Why there are gaps in a type, in the order in which they are come across. -/
def failures : ClientType → List Failure
  | .word _ => []
  | .named _ _ => []
  | .apply head arguments => head.failures ++ failuresOfAll arguments
  | .array element => element.failures
  | .dictionary value => value.failures
  | .union alternatives => failuresOfAll alternatives
  | .orNull type => type.failures
  | .gap failure => [failure]

/-- Why there are gaps in some types. -/
def failuresOfAll : List ClientType → List Failure
  | [] => []
  | type :: types => type.failures ++ failuresOfAll types

end

/-- A type inside some layers, outermost first. -/
def inLayers (wrap : α → ClientType → ClientType) (layers : List α) (base : ClientType) :
    ClientType :=
  layers.foldr wrap base

end ClientType

end ClientGen.TypeScript

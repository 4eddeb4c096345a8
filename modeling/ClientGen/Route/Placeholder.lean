import ClientGen.Text.Scan
import ClientGen.Text.Word

/-!
# Placeholders in routes

A placeholder stands in braces. As servers write it, stars may come before its name and constraints
after it, each behind a colon, and a question mark at the end makes it optional. In its plain form
there is only the name, and the question mark of an optional one.
-/

namespace ClientGen.Route

/-- A placeholder: its name and whether it may be left out. -/
structure Placeholder where
  name : String
  isOptional : Bool
  deriving DecidableEq, Repr

/-- The plain form of a placeholder. -/
def Placeholder.plain (placeholder : Placeholder) : List Char :=
  '\x7b' :: placeholder.name.toList ++ (if placeholder.isOptional then ['?', '\x7d'] else ['\x7d'])

/-- The end of a placeholder: whether a question mark comes first, and how long it is. -/
def closing? : List Char → Option (Bool × Nat)
  | '\x7d' :: _ => some (false, 1)
  | '?' :: '\x7d' :: _ => some (true, 2)
  | _ => none

/-- Whether a character may stand in a constraint. -/
def isConstraintChar (c : Char) : Bool :=
  c != '\x7d' && c != '?'

/-- The constraints at the beginning of some characters. Colons separate them and may stand in them
too, so the first one is enough to tell that there are any. -/
def constraints : List Char → List Char
  | ':' :: cs => ':' :: cs.takeWhile isConstraintChar
  | _ => []

/-- A placeholder as servers write it, at the beginning of some characters, with its length. -/
def constrained? : List Char → Option (Placeholder × Nat)
  | '\x7b' :: cs => do
    let stars := cs.takeWhile (· == '*')
    let afterStars := cs.drop stars.length
    let name := afterStars.takeWhile Text.isWord
    let afterName := afterStars.drop name.length
    guard (!name.isEmpty)
    let limits := constraints afterName
    let (isOptional, closing) ← closing? (afterName.drop limits.length)
    some (⟨String.ofList name, isOptional⟩,
      1 + stars.length + name.length + limits.length + closing)
  | _ => none

/-- A placeholder in its plain form, at the beginning of some characters, with its length. -/
def plain? : List Char → Option (Placeholder × Nat)
  | '\x7b' :: cs => do
    let name := cs.takeWhile Text.isWord
    guard (!name.isEmpty)
    let (isOptional, closing) ← closing? (cs.drop name.length)
    some (⟨String.ofList name, isOptional⟩, 1 + name.length + closing)
  | _ => none

/-- Brings every placeholder into its plain form. -/
def simplify (route : List Char) : List Char :=
  Text.spell Placeholder.plain (Text.pieces constrained? route)

/-- The placeholders of a route in order. -/
def placeholders (route : String) : List Placeholder :=
  Text.matches? (Text.pieces plain? route.toList)

end ClientGen.Route

import ClientGen.Text.Blank
import ClientGen.Text.Letter

/-!
# Tokens of type expressions

A type expression is read as a row of tokens: maximal runs of name characters, and every other
character that is not blank on its own. Each token remembers how many characters stand before it,
which is what a complaint about it reports.
-/

namespace ClientGen.TypeExpr

/-- The unit that the grammar of type expressions is written in. -/
inductive Token where
  | word (text : String)
  | mark (symbol : Char)
  deriving DecidableEq, Repr

/-- A token and the number of characters before it. -/
structure Placed where
  token : Token
  position : Nat
  deriving DecidableEq, Repr

/-- Whether a character may stand in a name. -/
def isNameChar (c : Char) : Bool :=
  Text.isAlphanumeric c || c == '_' || c == '.' || c == '\x60' || c == '+'

/-- Finishes the word whose characters were collected in reverse. It ends before `position`. -/
def closeWord (collected : List Char) (position : Nat) : List Placed :=
  if collected.isEmpty then []
  else [⟨.word (String.ofList collected.reverse), position - collected.length⟩]

/-- The tokens of the characters from `position` on, in front of which a word may be unfinished. -/
def tokensFrom (collected : List Char) (position : Nat) : List Char → List Placed
  | [] => closeWord collected position
  | c :: cs =>
    if isNameChar c then tokensFrom (c :: collected) (position + 1) cs
    else
      let others := tokensFrom [] (position + 1) cs
      closeWord collected position ++
        if Text.isBlank c then others else ⟨.mark c, position⟩ :: others

/-- The tokens of a text. -/
def tokens (text : List Char) : List Placed :=
  tokensFrom [] 0 text

end ClientGen.TypeExpr

/-!
# Looking for matches in a text

A recogniser looks at the beginning of some characters and gives what it found there together with
the number of characters that it takes. `Text.pieces` goes through a text from left to right and
divides it into the matches of a recogniser, none of which overlap, and the characters between.
-/

namespace ClientGen.Text

/-- A part of a text: a character that belongs to no match, or a match. -/
inductive Piece (α : Type) where
  | char (c : Char)
  | found (value : α)

/-- Divides what is left of a text after skipping the rest of a match. -/
def piecesFrom {α : Type} (recognise : List Char → Option (α × Nat)) :
    Nat → List Char → List (Piece α)
  | _, [] => []
  | skip + 1, _ :: cs => piecesFrom recognise skip cs
  | 0, c :: cs =>
    match recognise (c :: cs) with
    | some (value, length) => .found value :: piecesFrom recognise (length - 1) cs
    | none => .char c :: piecesFrom recognise 0 cs

/-- Divides a text into matches and other characters. -/
def pieces {α : Type} (recognise : List Char → Option (α × Nat)) (cs : List Char) :
    List (Piece α) :=
  piecesFrom recognise 0 cs

/-- The matches among some pieces. -/
def matches? {α : Type} (parts : List (Piece α)) : List α :=
  parts.filterMap fun
    | .found value => some value
    | .char _ => none

/-- Writes some pieces down again, with a text for each match. -/
def spell {α : Type} (write : α → List Char) (parts : List (Piece α)) : List Char :=
  parts.flatMap fun
    | .found value => write value
    | .char c => [c]

end ClientGen.Text

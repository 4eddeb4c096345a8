import ClientGen.Yaml.Chars

/-!
# Characters in their places

The structure of a YAML text depends on where its characters stand, so each one is kept together
with its line and its column. The different ways to end a line are made the same first, apart from
the separators of Unicode.
-/

namespace ClientGen.Yaml

/-- A character with its line and its column, both counted from zero. -/
structure Placed where
  char : Char
  line : Nat
  column : Nat

/-- Makes line feeds of the usual line ends. -/
def unifyBreaks : List Char → List Char
  | [] => []
  | '\r' :: cs => if cs.head? == some '\n' then unifyBreaks cs else '\n' :: unifyBreaks cs
  | c :: cs => (if c.toNat == 0x85 then '\n' else c) :: unifyBreaks cs

/-- Gives characters their places, from a line and a column on. -/
def placeFrom (line column : Nat) : List Char → List Placed
  | [] => []
  | c :: cs =>
    ⟨c, line, column⟩ ::
      if isBreak c then placeFrom (line + 1) 0 cs else placeFrom line (column + 1) cs

/-- Drops the mark that may stand in front of a text. -/
def dropMark : List Char → List Char
  | [] => []
  | c :: cs => if c.toNat == 0xFEFF then cs else c :: cs

/-- The characters of a text in their places, if all are allowed. -/
def place? (text : String) : Option (List Placed) :=
  let cs := text.toList
  if cs.all isAllowed then some (placeFrom 0 0 (unifyBreaks (dropMark (dropMark cs)))) else none

namespace Placed

/-- The next character. -/
def next? (cs : List Placed) : Option Char :=
  cs.head?.map (·.char)

/-- The characters without their places. -/
def chars (cs : List Placed) : List Char :=
  cs.map (·.char)

/-- Takes characters for as long as they satisfy a condition. -/
def span (p : Char → Bool) (cs : List Placed) : List Char × List Placed :=
  let taken := cs.takeWhile fun placed => p placed.char
  (chars taken, cs.drop taken.length)

/-- Whether some characters come next. -/
def startsWith (expected : List Char) (cs : List Placed) : Bool :=
  expected.isPrefixOf (chars (cs.take expected.length))

/-- Whether a line begins with three hyphens or three points, which divide documents. -/
def atMarker (cs : List Placed) : Bool :=
  match cs with
  | [] => false
  | first :: _ =>
    first.column == 0 &&
      (startsWith ['-', '-', '-'] cs || startsWith ['.', '.', '.'] cs) &&
      endsWord (next? (cs.drop 3))

end Placed

end ClientGen.Yaml

import ClientGen.Data.Tree
import ClientGen.Decimal.Style

/-!
# Writing JSON

A tree is written either on one line without blanks, or over several lines with two blanks of
indentation for each level; empty lists and records stay on one line. Both ways share the spelling
of scalars. A variant is a record whose only field is named for the alternative.
-/

namespace ClientGen.Json

open Data

/-- JSON writes exponents from -5 to 15 out and marks whole floats by `.0`; it has no spelling for
values that are not finite and gives null for them. -/
def floatStyle : Decimal.Style where
  positionalFrom := -5
  positionalTo := 15
  wholeMark := ".0"
  positiveExponent := "+"
  tie := .toEven
  notANumber := "null"
  infinity := "null"
  negativeInfinity := "null"

/-- A digit of a hexadecimal number, in lower case. -/
def hexDigit (value : Nat) : Char :=
  (Nat.digitChar value)

/-- A character inside quotes. Only quotes, backslashes and control characters are escaped. -/
def escapeChar (c : Char) : List Char :=
  if c == '"' then ['\\', '"']
  else if c == '\\' then ['\\', '\\']
  else if c == '\x08' then ['\\', 'b']
  else if c == '\x0c' then ['\\', 'f']
  else if c == '\n' then ['\\', 'n']
  else if c == '\r' then ['\\', 'r']
  else if c == '\t' then ['\\', 't']
  else if c.toNat < 32 then
    ['\\', 'u', '0', '0', hexDigit (c.toNat / 16), hexDigit (c.toNat % 16)]
  else [c]

/-- A text in quotes. -/
def quote (text : String) : String :=
  "\"" ++ String.ofList (text.toList.flatMap escapeChar) ++ "\""

/-- A truth value. -/
def boolText (value : Bool) : String :=
  if value then "true" else "false"

mutual

/-- A tree on one line. -/
def compact : Tree → String
  | .null => "null"
  | .bool value => boolText value
  | .int value => toString value
  | .real value => floatStyle.spell value
  | .text value => quote value
  | .list items => "[" ++ compactItems items ++ "]"
  | .record fields => "\x7b" ++ compactFields fields ++ "\x7d"
  | .variant name body => "\x7b" ++ quote name ++ ":" ++ compact body ++ "\x7d"

/-- The items of a list, separated by commas. -/
def compactItems : List Tree → String
  | [] => ""
  | [item] => compact item
  | item :: items => compact item ++ "," ++ compactItems items

/-- The fields of a record, separated by commas. -/
def compactFields : List (String × Tree) → String
  | [] => ""
  | [(name, value)] => quote name ++ ":" ++ compact value
  | (name, value) :: fields => quote name ++ ":" ++ compact value ++ "," ++ compactFields fields

end

/-- A new line at a level of nesting. -/
def newLine (level : Nat) : String :=
  "\n" ++ String.ofList (List.replicate (2 * level) ' ')

mutual

/-- A tree over several lines, inside `level` containers. -/
def indented (level : Nat) : Tree → String
  | .null => "null"
  | .bool value => boolText value
  | .int value => toString value
  | .real value => floatStyle.spell value
  | .text value => quote value
  | .list [] => "[]"
  | .list items => "[" ++ indentedItems (level + 1) items ++ newLine level ++ "]"
  | .record [] => "\x7b\x7d"
  | .record fields => "\x7b" ++ indentedFields (level + 1) fields ++ newLine level ++ "\x7d"
  | .variant name body =>
    "\x7b" ++ newLine (level + 1) ++ quote name ++ ": " ++ indented (level + 1) body ++
      newLine level ++ "\x7d"

/-- The items of a list, each on a line of its own. -/
def indentedItems (level : Nat) : List Tree → String
  | [] => ""
  | [item] => newLine level ++ indented level item
  | item :: items => newLine level ++ indented level item ++ "," ++ indentedItems level items

/-- The fields of a record, each on a line of its own. -/
def indentedFields (level : Nat) : List (String × Tree) → String
  | [] => ""
  | [(name, value)] => newLine level ++ quote name ++ ": " ++ indented level value
  | (name, value) :: fields =>
    newLine level ++ quote name ++ ": " ++ indented level value ++ "," ++
      indentedFields level fields

end

/-- A tree over several lines. -/
def pretty (tree : Tree) : String :=
  indented 0 tree

end ClientGen.Json

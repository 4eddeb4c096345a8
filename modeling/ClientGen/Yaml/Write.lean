import ClientGen.Data.Tree
import ClientGen.Json.Write
import ClientGen.Yaml.Scalar

/-!
# Writing YAML

A tree is written in blocks: each field and each item on a line of its own, records two spaces
further in than their keys, lists no further in than theirs. Empty lists and records stand in
brackets. A variant is a value under a tag.

`level` is the number of spaces in front of the line that a value is written on; what is written
begins behind the colon or the hyphen there.
-/

namespace ClientGen.Yaml

open Data

/-- Exponents have no sign unless it is a minus, and values that are not finite have names. -/
def floatStyle : Decimal.Style :=
  { Json.floatStyle with
    positiveExponent := ""
    notANumber := ".nan"
    infinity := ".inf"
    negativeInfinity := "-.inf" }

/-- Some spaces. -/
def spaces (level : Nat) : List Char :=
  List.replicate level ' '

/-- The beginning of a line. -/
def newLine (level : Nat) : List Char :=
  '\n' :: spaces level

/-- Whether a key can stand in front of its value: it has one line and is not too long. -/
def isSimpleKey (name : String) : Bool :=
  !name.toList.any isBreak && name.utf8ByteSize ≤ 128

/-- A key with the colon. One that is not simple follows a question mark. -/
def key (level : Nat) (name : String) : List Char :=
  if isSimpleKey name then spellText (.ofText true name) (spaces (level + 2)) name ++ [':']
  else
    '?' :: ' ' :: spellText (.ofText false name) (spaces (level + 2)) name ++
      newLine level ++ [':']

mutual

/-- A value behind a key. -/
def afterKey (level : Nat) : Tree → List Char
  | .null => " null".toList
  | .bool value => ' ' :: (Json.boolText value).toList
  | .int value => ' ' :: (toString value).toList
  | .real value => ' ' :: (floatStyle.spell value).toList
  | .text value => ' ' :: spellText (.ofText false value) (spaces (level + 2)) value
  | .list [] => " []".toList
  | .list items => itemLines level items
  | .record [] => " \x7b\x7d".toList
  | .record fields => fieldLines (level + 2) fields
  | .variant name body => " !".toList ++ name.toList ++ afterKey level body

/-- A value behind the hyphen of an item, or behind the colon of a key that is not simple. The first
entry of a container stays on the line. -/
def afterMark (level : Nat) : Tree → List Char
  | .null => " null".toList
  | .bool value => ' ' :: (Json.boolText value).toList
  | .int value => ' ' :: (toString value).toList
  | .real value => ' ' :: (floatStyle.spell value).toList
  | .text value => ' ' :: spellText (.ofText false value) (spaces (level + 2)) value
  | .list [] => " []".toList
  | .list (item :: items) =>
    " -".toList ++ afterMark (level + 2) item ++ itemLines (level + 2) items
  | .record [] => " \x7b\x7d".toList
  | .record ((name, value) :: fields) =>
    ' ' :: key (level + 2) name ++
      (if isSimpleKey name then afterKey (level + 2) value else afterMark (level + 2) value) ++
      fieldLines (level + 2) fields
  | .variant name (.list (item :: items)) =>
    " !".toList ++ name.toList ++ newLine (level + 2) ++ '-' :: afterMark (level + 2) item ++
      itemLines (level + 2) items
  | .variant name body => " !".toList ++ name.toList ++ afterKey level body

/-- The items of a list, each on a new line. -/
def itemLines (level : Nat) : List Tree → List Char
  | [] => []
  | item :: items => newLine level ++ '-' :: afterMark level item ++ itemLines level items

/-- The fields of a record, each on a new line. -/
def fieldLines (level : Nat) : List (String × Tree) → List Char
  | [] => []
  | (name, value) :: fields =>
    newLine level ++ key level name ++
      (if isSimpleKey name then afterKey level value else afterMark level value) ++
      fieldLines level fields

end

/-- A text, if it is written as a block. -/
def textBlocks (value : String) : List (List Char) :=
  if ScalarForm.ofText false value = .block then [value.toList] else []

mutual

/-- The texts in a tree that are written as blocks, in order. -/
def blocks : Tree → List (List Char)
  | .text value => textBlocks value
  | .list items => itemBlocks items
  | .record fields => fieldBlocks fields
  | .variant _ body => blocks body
  | _ => []

/-- The texts in some items that are written as blocks. -/
def itemBlocks : List Tree → List (List Char)
  | [] => []
  | item :: items => blocks item ++ itemBlocks items

/-- The texts in some fields that are written as blocks. -/
def fieldBlocks : List (String × Tree) → List (List Char)
  | [] => []
  | (name, value) :: fields =>
    (if isSimpleKey name then [] else textBlocks name) ++ blocks value ++ fieldBlocks fields

end

/-- Whether a document has to be closed by a mark: its last block keeps the empty lines behind
it. -/
def needsEndMark (tree : Tree) : Bool :=
  (blocks tree).getLast?.any fun cs => endingHint cs == ['+']

/-- A tree as the lines of a document. -/
def lines : Tree → List Char
  | .record (field :: fields) => (fieldLines 0 (field :: fields)).drop 1
  | .list (item :: items) => (itemLines 0 (item :: items)).drop 1
  | tree => (afterKey 0 tree).drop 1

/-- A tree as a document. -/
def write (tree : Tree) : String :=
  String.ofList (lines tree ++ '\n' :: if needsEndMark tree then "...\n".toList else [])

end ClientGen.Yaml

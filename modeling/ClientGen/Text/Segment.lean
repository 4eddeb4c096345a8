/-!
# Cutting texts at characters and patterns

Small functions on lists of characters that names, routes and paths are taken apart with. Each is
structural in its list, so that a statement about it is proved by following the characters.
-/

namespace ClientGen.Text

/-- The characters after the last occurrence of `mark`, all of them when there is none. -/
def afterLast (mark : Char) (cs : List Char) : List Char :=
  (cs.reverse.takeWhile (· != mark)).reverse

/-- The characters before the first occurrence of `mark`, all of them when there is none. -/
def beforeFirst (mark : Char) (cs : List Char) : List Char :=
  cs.takeWhile (· != mark)

/-- What stands before `ending`, when the characters end with it. -/
def dropEnding? (ending cs : List Char) : Option (List Char) :=
  if ending.isSuffixOf cs then some (cs.take (cs.length - ending.length)) else none

/-- What stands after `beginning`, when the characters begin with it. -/
def dropBeginning? : List Char → List Char → Option (List Char)
  | [], cs => some cs
  | _ :: _, [] => none
  | b :: beginning, c :: cs => if b == c then dropBeginning? beginning cs else none

/-- Whether `pattern` occurs somewhere in the characters. -/
def occursIn (pattern : List Char) : List Char → Bool
  | [] => pattern.isEmpty
  | c :: cs => pattern.isPrefixOf (c :: cs) || occursIn pattern cs

/-- Replaces the occurrences of a pattern from left to right, after skipping some characters that
belong to an occurrence already replaced. -/
def replaceFrom (pattern replacement : List Char) : Nat → List Char → List Char
  | _, [] => []
  | skip + 1, _ :: cs => replaceFrom pattern replacement skip cs
  | 0, c :: cs =>
    if pattern.isPrefixOf (c :: cs) then
      replacement ++ replaceFrom pattern replacement (pattern.length - 1) cs
    else c :: replaceFrom pattern replacement 0 cs

/-- Replaces the occurrences of a non-empty pattern that do not overlap, from left to right. -/
def replaceAll (pattern replacement cs : List Char) : List Char :=
  replaceFrom pattern replacement 0 cs

/-- Splits at every occurrence of `mark`; the parts between two marks may be empty. -/
def splitAt (mark : Char) (cs : List Char) : List (List Char) :=
  cs.foldr (fun c parts =>
    if c == mark then [] :: parts
    else
      match parts with
      | [] => [[c]]
      | part :: others => (c :: part) :: others) [[]]

/-- The letters A to Z in lower case and all else unchanged. -/
def lowerAscii (text : String) : String :=
  String.ofList (text.toList.map Char.toLower)

end ClientGen.Text

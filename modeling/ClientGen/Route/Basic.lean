import ClientGen.Collections.Ordered
import ClientGen.Route.Placeholder
import ClientGen.Text.CaseMap
import ClientGen.Text.Segment

/-!
# Routes of actions

The route of an action is the prefix of its controller and a fragment of its own. The prefix is
passed over when the fragment starts with a slash, which may follow a tilde; a controller without a
prefix uses its name. Then placeholders are brought into their plain form, and the tokens for the
controller and the action are replaced by their names.

The version of an action is taken from its route, and the placeholders of the route decide which
parameters belong to the path.
-/

namespace ClientGen.Route

/-- The prefix of a controller that declares none. -/
def defaultStem : String := "[controller]"

/-- The fragment without the mark that makes it a whole route. -/
def absolute? (fragment : List Char) : Option (List Char) :=
  (Text.dropBeginning? ['~', '/'] fragment).or (Text.dropBeginning? ['/'] fragment)

/-- Drops the slashes at the end. -/
def dropSlashes (cs : List Char) : List Char :=
  (cs.reverse.dropWhile (· == '/')).reverse

/-- The prefix and the fragment together. -/
def join (stem : Option String) (fragment : List Char) : List Char :=
  match absolute? fragment with
  | some route => route
  | none =>
    let stem := dropSlashes (stem.getD defaultStem).toList
    if stem.isEmpty then fragment else stem ++ '/' :: fragment

/-- The route of an action. -/
def normalize (stem : Option String) (fragment controller action : String) : String :=
  let route := simplify (join stem fragment.toList)
  let withController := Text.replaceAll "[controller]".toList controller.toList route
  String.ofList (Text.replaceAll "[action]".toList action.toList withController)

/-- Whether nothing or a slash comes next. -/
def atSegmentEnd : List Char → Bool
  | [] => true
  | c :: _ => c == '/'

/-- A version number at the beginning of some characters, if the segment ends with it. -/
def versionNumber? (cs : List Char) : Option String :=
  let major := cs.takeWhile Text.isDecimalDigit
  let minor :=
    match cs.drop major.length with
    | '.' :: others => '.' :: others.takeWhile Text.isDecimalDigit
    | _ => []
  let number := if minor.length ≤ 1 then major else major ++ minor
  if !major.isEmpty && atSegmentEnd (cs.drop number.length) then some (String.ofList number)
  else none

/-- The version of the segments at the beginning of some characters: `api`, and behind it a number
after the letter `v`. -/
def versionHere? (cs : List Char) : Option String :=
  if (cs.take 5).map Char.toLower == ['a', 'p', 'i', '/', 'v'] then versionNumber? (cs.drop 5)
  else none

/-- The first version in some characters, which start a segment if `atStart`. -/
def versionFrom? : Bool → List Char → Option String
  | _, [] => none
  | atStart, c :: cs =>
    match if atStart then versionHere? (c :: cs) else none with
    | some version => some version
    | none => versionFrom? (c == '/') cs

/-- The version of a route. -/
def version? (route : String) : Option String :=
  versionFrom? true route.toList

/-- The names of the placeholders in lower case, each with whether it may be left out. Of
placeholders with the same name the last one counts. -/
def bindings (route : String) : List (String × Bool) :=
  Ordered.ofList ((placeholders route).map fun placeholder =>
    (Text.lower placeholder.name, placeholder.isOptional))

end ClientGen.Route

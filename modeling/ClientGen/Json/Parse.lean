import ClientGen.Json.Token

/-!
# Reading JSON

The tokens of a text are put together by an automaton with a stack of the containers that are
still open. Reading never fails: where a token does not fit, or none is left although something has
to follow, the open containers are closed around what they hold and the flaw stays in each of them.
-/

namespace ClientGen.Json

open Data

/-- A container being read, with what it holds so far in reverse order. -/
inductive Frame where
  | list (items : List Source)
  | record (members : List (Quoted × Source))
  /-- A record in the middle of a member. -/
  | member (members : List (Quoted × Source)) (key : Quoted)

/-- What the next token has to be. -/
inductive Need where
  | value
  | valueOrEnd
  | key
  | keyOrEnd
  | colon (key : Quoted)
  /-- What separates or ends, behind a value that is complete. -/
  | separator (value : Source)

/-- The automaton's state. -/
structure Progress where
  frames : List Frame
  need : Need

/-- Closes the open containers around a value, which may be missing. -/
def closeFrames (flaw : Flaw) : Option Source → List Frame → Source
  | inner, [] => inner.getD (.flawed flaw)
  | inner, .list items :: frames =>
    closeFrames flaw (some (.list (inner.toList ++ items).reverse (some flaw))) frames
  | _, .record members :: frames =>
    closeFrames flaw (some (.record members.reverse (some flaw))) frames
  | inner, .member members key :: frames =>
    let last := (key, inner.getD (.flawed flaw))
    closeFrames flaw (some (.record (last :: members).reverse (some flaw))) frames

/-- The value of a text that is broken off here. -/
def Progress.breakOff (flaw : Flaw) : Progress → Source
  | ⟨frames, .separator value⟩ => closeFrames flaw (some value) frames
  | ⟨.record members :: frames, .colon key⟩ =>
    closeFrames flaw none (.member members key :: frames)
  | ⟨frames, _⟩ => closeFrames flaw none frames

/-- A token that is a value by itself. -/
def Token.scalar? : Token → Option Source
  | .null => some .null
  | .bool value => some (.bool value)
  | .numeral value => some (.numeral value)
  | .quoted value => some (.quoted value)
  | .unfinishedNumber => some .unfinishedNumber
  | .flawed flaw => some (.flawed flaw)
  | .mark _ => none

/-- Takes a token with which a value begins. -/
def beginValue (frames : List Frame) (token : Token) : Option Progress :=
  match token with
  | .mark '[' => some ⟨.list [] :: frames, .valueOrEnd⟩
  | .mark '\x7b' => some ⟨.record [] :: frames, .keyOrEnd⟩
  | token => token.scalar?.map fun value => ⟨frames, .separator value⟩

/-- Takes a token behind a value. -/
def afterValue (value : Source) : List Frame → Token → Option Progress
  | .list items :: frames, .mark ',' => some ⟨.list (value :: items) :: frames, .value⟩
  | .list items :: frames, .mark ']' =>
    some ⟨frames, .separator (.list (value :: items).reverse none)⟩
  | .member members key :: frames, .mark ',' =>
    some ⟨.record ((key, value) :: members) :: frames, .key⟩
  | .member members key :: frames, .mark '\x7d' =>
    some ⟨frames, .separator (.record ((key, value) :: members).reverse none)⟩
  | _, _ => none

/-- Takes one token, if it fits. -/
def Progress.take? : Progress → Token → Option Progress
  | ⟨frames, .value⟩, token => beginValue frames token
  | ⟨.list _ :: frames, .valueOrEnd⟩, .mark ']' => some ⟨frames, .separator (.list [] none)⟩
  | ⟨frames, .valueOrEnd⟩, token => beginValue frames token
  | ⟨.record _ :: frames, .keyOrEnd⟩, .mark '\x7d' =>
    some ⟨frames, .separator (.record [] none)⟩
  | ⟨frames, .keyOrEnd⟩, .quoted key => some ⟨frames, .colon key⟩
  | ⟨frames, .key⟩, .quoted key => some ⟨frames, .colon key⟩
  | ⟨.record members :: frames, .colon key⟩, .mark ':' =>
    some ⟨.member members key :: frames, .value⟩
  | ⟨frames, .separator value⟩, token => afterValue value frames token
  | _, _ => none

/-- A text that was read: its value, and whether anything follows it. -/
structure Document where
  root : Source
  trailing : Bool

/-- Takes the tokens that are left. -/
def Progress.takeAll : Progress → List Token → Document
  | ⟨[], .separator value⟩, tokens => ⟨value, !tokens.isEmpty⟩
  | progress, [] => ⟨progress.breakOff .truncated, false⟩
  | progress, token :: tokens =>
    match progress.take? token with
    | some next => next.takeAll tokens
    | none => ⟨progress.breakOff .malformed, false⟩
termination_by structural _ tokens => tokens

/-- Reads a text. -/
def parse (text : String) : Document :=
  Progress.takeAll ⟨[], .value⟩ (tokens text)

end ClientGen.Json

import ClientGen.Data.Reader
import ClientGen.Data.Tree

/-!
# Values that may be left out

A field of a payload may be left out altogether, which is not the same as being given as null: a
client that sends null asks for a value to be cleared, one that leaves the field out asks for it to
be kept. `Presence` keeps the two apart when its values may themselves be missing.
-/

namespace ClientGen

/-- A value, or the fact that it was left out. -/
inductive Presence (α : Type) where
  | absent
  | present (value : α)
  deriving DecidableEq, Repr

namespace Presence

variable {α β : Type}

/-- Whether a value was given. -/
def isPresent : Presence α → Bool
  | .present _ => true
  | .absent => false

/-- Whether no value was given. -/
def isAbsent (presence : Presence α) : Bool :=
  !presence.isPresent

/-- The value, if one was given. -/
def toOption : Presence α → Option α
  | .present value => some value
  | .absent => none

/-- The value, or another one in its place. -/
def getD (default : α) : Presence α → α
  | .present value => value
  | .absent => default

/-- The presence of a field that was looked for. -/
def ofOption : Option α → Presence α
  | some value => .present value
  | none => .absent

/-- The text of the value; a value that was left out is undefined. -/
def toText (text : α → String) : Presence α → String
  | .present value => text value
  | .absent => "undefined"

/-- The value as it is written where a field cannot be left out. -/
def toTree (write : α → Data.Tree) : Presence α → Data.Tree
  | .present value => write value
  | .absent => .null

/-- A field that is left out together with its value. -/
def field (name : String) (write : α → Data.Tree) (presence : Presence α) :
    List (String × Data.Tree) :=
  Data.Tree.optional name write presence.toOption

end Presence

end ClientGen

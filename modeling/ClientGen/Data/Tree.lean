/-!
# Trees of data to be written

What the JSON and YAML writers write: a value made of scalars, lists and records whose fields keep
their order. A `variant` is a value that carries the name of the alternative it belongs to; the two
formats spell that in different ways.
-/

namespace ClientGen.Data

/-- A value to be written. -/
inductive Tree where
  | null
  | bool (value : Bool)
  | int (value : Int)
  | real (value : Float)
  | text (value : String)
  | list (items : List Tree)
  | record (fields : List (String × Tree))
  | variant (name : String) (body : Tree)
  deriving Inhabited

namespace Tree

/-- A value that may be missing, which is written as null. -/
def orNull {α : Type} (write : α → Tree) : Option α → Tree
  | some value => write value
  | none => .null

/-- A field that is always written. -/
def field (name : String) (value : Tree) : List (String × Tree) :=
  [(name, value)]

/-- A field that is written only when it has a value. -/
def optional {α : Type} (name : String) (write : α → Tree) : Option α → List (String × Tree)
  | some value => [(name, write value)]
  | none => []

/-- A list that is left out when it is empty. -/
def nonempty {α : Type} (name : String) (write : α → Tree) : List α → List (String × Tree)
  | [] => []
  | items => [(name, .list (items.map write))]

end Tree

end ClientGen.Data

import ClientGen.TypeScript.ClientType
import ClientGen.TypeScript.Options
import ClientGen.TypeScript.Writing

/-!
# Code

The code of a client as rows of fragments. Besides texts there are fragments whose occurrence
matters to the module around them: types, which may need imports, values of parameters, and helpers,
which have to be brought into the module.
-/

namespace ClientGen.TypeScript

/-- A piece of code. -/
inductive Fragment where
  | text (content : String)
  | type (type : ClientType)
  /-- The value of a parameter of the action that the code belongs to. -/
  | parameter (passing : Passing) (name : String)
  | helper (helper : Helper)

instance : Coe String Fragment := ⟨.text⟩

instance : Coe ClientType Fragment := ⟨.type⟩

instance : Coe Helper Fragment := ⟨.helper⟩

/-- The text of a fragment. -/
def Fragment.spell : Fragment → String
  | .text content => content
  | .type mentioned => mentioned.text
  | .parameter .object name => "params." ++ name
  | .parameter .positional name => name
  | .helper called => called.name

/-- A line of code, or a part of one. -/
abbrev Code := List Fragment

namespace Code

/-- The text of some code. -/
def spell (code : Code) : String :=
  String.join (code.map Fragment.spell)

/-- The text of some lines. -/
def spellLines (lines : List Code) : String :=
  String.join (lines.map fun line => line.spell ++ "\n")

/-- Why there are gaps in the types of some code. -/
def failures (code : Code) : List Failure :=
  code.flatMap fun
    | .type mentioned => mentioned.failures
    | _ => []

/-- Parts of a line, one after the other. -/
def row (parts : List Code) : Code :=
  parts.flatten

/-- Groups of lines, one after the other. -/
def stack (groups : List (List Code)) : List Code :=
  groups.flatten

/-- A line for a value, if it is given. -/
def given {α : Type} (value : Option α) (line : α → Code) : List Code :=
  value.toList.map line

/-- Some code with a separator between each two parts. -/
def join (separator : String) : List Code → Code
  | [] => []
  | [code] => code
  | code :: others => code ++ .text separator :: join separator others

/-- The code one level further in. -/
def indent (code : Code) : Code :=
  .text "    " :: code

/-- Lines with a separator line between each two groups. -/
def separated : List (List Code) → List Code
  | [] => []
  | [lines] => lines
  | lines :: others => lines ++ [] :: separated others

/-- A comment that documents what follows it. -/
def comment (documentation : Option String) : List Code :=
  match documentation with
  | some text => if text.isEmpty then [] else [["/** ", text, " */"]]
  | none => []

end Code

end ClientGen.TypeScript

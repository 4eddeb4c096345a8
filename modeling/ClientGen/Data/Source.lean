import ClientGen.Data.Numeral
import ClientGen.TypeExpr.Parse

/-!
# Data as it is read

A text in a data format becomes a `Source` before anything is known about what it should hold. A
source may be damaged: reading the text stops at its first flaw, and the flaw stays in the tree at
the place where it was met. So whoever goes through the tree in the order of the text meets either
the flaw or a value that does not fit what is wanted, whichever comes first.

Three decisions are left open until a value is wanted or passed over. Numerals out of range and
escapes of lone surrogates only matter when the value is wanted. Scalars without quotes, which one
of the formats has, are texts where a text is wanted and otherwise what they look like.
-/

namespace ClientGen.Data

/-- What is wrong with a text as such. -/
inductive Flaw where
  /-- The text is not in the format. -/
  | malformed
  /-- The text ends too early. -/
  | truncated
  deriving DecidableEq, Repr

/-- What is wrong with data that does not fit the record it should be. -/
inductive Misfit where
  | typeExpression (error : TypeExpr.ParseError)
  | missingField (name : String)
  | duplicateField (name : String)
  | unknownVariant (name : String) (known : List String)
  /-- A value of another kind, or out of range. -/
  | otherKind
  deriving Repr

/-- Why data could not be read. -/
inductive ReadError where
  | flaw (flaw : Flaw)
  | misfit (misfit : Misfit)
  deriving Repr

/-- A unit of a quoted text: a character, or one half of an escaped surrogate pair. -/
inductive TextUnit where
  | char (c : Char)
  | surrogate (code : Nat)

/-- A quoted text up to its end or its first flaw. -/
structure Quoted where
  units : List TextUnit
  flaw : Option Flaw

/-- A value in a text. The last entry of a list or a record says what ended it too early. -/
inductive Source where
  | null
  | bool (value : Bool)
  | numeral (value : Numeral)
  | number (value : Number)
  | quoted (value : Quoted)
  /-- A scalar without quotes. -/
  | plain (text : String)
  | list (items : List Source) (flaw : Option Flaw)
  | record (members : List (Quoted × Source)) (flaw : Option Flaw)
  /-- A value under a tag that names its type. -/
  | tagged (tag : String) (body : Source)
  /-- A number that the text ends within: truncated if it is wanted, malformed if not. -/
  | unfinishedNumber
  | flawed (flaw : Flaw)

/-- A value without its tag. -/
def Source.untagged : Source → Source
  | .tagged _ body => body
  | source => source

/-- A text without anything to decide. -/
def Quoted.ofString (text : String) : Quoted :=
  ⟨text.toList.map .char, none⟩

/-- Fails if there is a flaw. -/
def checkFlaw : Option Flaw → Except ReadError Unit
  | none => .ok ()
  | some flaw => .error (.flaw flaw)

/-- Joins surrogate pairs. A half without its partner is malformed, unless the text is already
flawed where the partner should be. -/
def joinUnits (flaw : Option Flaw) : List TextUnit → Except ReadError (List Char)
  | [] =>
    match flaw with
    | none => .ok []
    | some flaw => .error (.flaw flaw)
  | .char c :: units => (joinUnits flaw units).map (c :: ·)
  | .surrogate high :: .surrogate low :: units =>
    if high < 0xDC00 && 0xDC00 ≤ low then
      (joinUnits flaw units).map
        (Char.ofNat (0x10000 + (high - 0xD800) * 0x400 + (low - 0xDC00)) :: ·)
    else .error (.flaw .malformed)
  | [.surrogate high] =>
    if high < 0xDC00 then .error (.flaw (flaw.getD .malformed)) else .error (.flaw .malformed)
  | .surrogate _ :: .char _ :: _ => .error (.flaw .malformed)

/-- The text itself. -/
def Quoted.text (quoted : Quoted) : Except ReadError String :=
  (joinUnits quoted.flaw quoted.units).map String.ofList

mutual

/-- Passes over a value that nobody wants; only flaws matter. -/
def Source.skip : Source → Except ReadError Unit
  | .quoted value => checkFlaw value.flaw
  | .list items flaw => do skipItems items; checkFlaw flaw
  | .record members flaw => do skipMembers members; checkFlaw flaw
  | .tagged _ body => body.skip
  | .unfinishedNumber => .error (.flaw .malformed)
  | .flawed flaw => .error (.flaw flaw)
  | _ => .ok ()

/-- Passes over the items of a list. -/
def skipItems : List Source → Except ReadError Unit
  | [] => .ok ()
  | item :: items => do item.skip; skipItems items

/-- Passes over the members of a record. -/
def skipMembers : List (Quoted × Source) → Except ReadError Unit
  | [] => .ok ()
  | (key, value) :: members => do checkFlaw key.flaw; value.skip; skipMembers members

end

/-- The complaint about a value of another kind than the wanted one. A scalar has to be sound for
that complaint; a list or a record is refused where it begins. -/
def Source.refuse : Source → ReadError
  | .quoted value =>
    match value.text with
    | .ok _ => .misfit .otherKind
    | .error error => error
  | .numeral value =>
    match value.value? with
    | some _ => .misfit .otherKind
    | none => .flaw .malformed
  | .unfinishedNumber => .flaw .truncated
  | .flawed flaw => .flaw flaw
  | _ => .misfit .otherKind

mutual

/-- The number of containers around the innermost value. -/
def Source.depth : Source → Nat
  | .list items _ => depthItems items + 1
  | .record members _ => depthMembers members + 1
  | .tagged _ body => body.depth
  | _ => 0

/-- The greatest depth of the items of a list. -/
def depthItems : List Source → Nat
  | [] => 0
  | item :: items => max item.depth (depthItems items)

/-- The greatest depth of the members of a record. -/
def depthMembers : List (Quoted × Source) → Nat
  | [] => 0
  | (_, value) :: members => max value.depth (depthMembers members)

end

end ClientGen.Data

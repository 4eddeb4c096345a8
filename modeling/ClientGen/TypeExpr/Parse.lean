import ClientGen.TypeExpr.Basic
import ClientGen.TypeExpr.Token

/-!
# Reading type expressions

The grammar, with blanks allowed before every token:

    type    ::= head postfix*
    head    ::= '$' word | 'void' | word | word '<' type (',' type)* '>'
    postfix ::= '[' ']' | '?'

The reader is an automaton that takes one token at a time. It keeps the generic types that are
still open on a stack, each with the arguments finished so far, and it knows what the tokens just
taken have led to: a type has to begin, a type may be continued, and so on. A token that fits
nothing is where the complaint points; so is the end of the text, when more had to follow.
-/

namespace ClientGen.TypeExpr

/-- What is missing where reading stopped. -/
inductive Expectation where
  | typeName
  | closingAngle
  | closingBracket
  | endOfText
  deriving DecidableEq, Repr

/-- The wording of a complaint. -/
def Expectation.message : Expectation → String
  | .typeName => "expected a type name"
  | .closingAngle => "expected '>'"
  | .closingBracket => "expected ']'"
  | .endOfText => "unexpected trailing characters"

/-- Why a text is no type expression: what was expected behind how many of its characters. -/
structure ParseError where
  text : String
  expectation : Expectation
  position : Nat
  deriving DecidableEq, Repr

/-- A generic type whose arguments are being read; those finished are in reverse order. -/
structure OpenType where
  name : String
  finished : List TypeExpr

/-- What the tokens taken last have led to. -/
inductive Situation where
  /-- A type has to begin. -/
  | beforeType
  /-- The name of a generic parameter has to follow. -/
  | beforeParameter
  /-- A word that is the whole type unless arguments follow. -/
  | behindWord (word : String)
  /-- A type that only postfixes can continue. -/
  | behindType (ty : TypeExpr)
  /-- An array type lacks its closing bracket. -/
  | insideBrackets (element : TypeExpr)

/-- The automaton's state. -/
structure Reading where
  stack : List OpenType
  situation : Situation

/-- Where every text starts. -/
def Reading.start : Reading :=
  ⟨[], .beforeType⟩

/-- What has to follow a type that nothing continues. -/
def expectedBehind (stack : List OpenType) : Expectation :=
  if stack.isEmpty then .endOfText else .closingAngle

/-- Takes a token behind a type: a postfix, or a separator of the innermost open type. -/
def continueType (ty : TypeExpr) : List OpenType → Token → Except Expectation Reading
  | stack, .mark '[' => .ok ⟨stack, .insideBrackets ty⟩
  | stack, .mark '?' => .ok ⟨stack, .behindType (nullable ty)⟩
  | top :: stack, .mark ',' => .ok ⟨⟨top.name, ty :: top.finished⟩ :: stack, .beforeType⟩
  | top :: stack, .mark '>' =>
    .ok ⟨stack, .behindType (apply top.name (ty :: top.finished).reverse)⟩
  | stack, _ => .error (expectedBehind stack)

/-- Takes one token. -/
def Reading.take (reading : Reading) (token : Token) : Except Expectation Reading :=
  match reading.situation, token with
  | .beforeType, .mark '$' => .ok ⟨reading.stack, .beforeParameter⟩
  | .beforeType, .word word =>
    if word = "void" then .ok ⟨reading.stack, .behindType .void⟩
    else .ok ⟨reading.stack, .behindWord word⟩
  | .beforeType, _ => .error .typeName
  | .beforeParameter, .word word => .ok ⟨reading.stack, .behindType (.parameter word)⟩
  | .beforeParameter, _ => .error .typeName
  | .behindWord word, .mark '<' => .ok ⟨⟨expandKeyword word, []⟩ :: reading.stack, .beforeType⟩
  | .behindWord word, _ => continueType (ofName word) reading.stack token
  | .behindType ty, _ => continueType ty reading.stack token
  | .insideBrackets element, .mark ']' => .ok ⟨reading.stack, .behindType (.array element)⟩
  | .insideBrackets _, _ => .error .closingBracket

/-- The outcome when no token is left. -/
def Reading.finish : Reading → Except Expectation TypeExpr
  | ⟨_, .beforeType⟩ => .error .typeName
  | ⟨_, .beforeParameter⟩ => .error .typeName
  | ⟨_, .insideBrackets _⟩ => .error .closingBracket
  | ⟨[], .behindWord word⟩ => .ok (ofName word)
  | ⟨[], .behindType ty⟩ => .ok ty
  | ⟨_ :: _, _⟩ => .error .closingAngle

/-- Takes tokens to the end; a complaint comes with the position of the token that does not fit,
which is `ending` when none is left. -/
def Reading.takeAll (ending : Nat) : Reading → List Placed → Except (Expectation × Nat) TypeExpr
  | reading, [] => reading.finish.mapError (·, ending)
  | reading, placed :: rest =>
    match reading.take placed.token with
    | .ok next => next.takeAll ending rest
    | .error expectation => .error (expectation, placed.position)

/-- Reads a whole text as a type expression. -/
def parse (text : String) : Except ParseError TypeExpr :=
  let chars := text.toList
  (Reading.start.takeAll chars.length (tokens chars)).mapError fun (expectation, position) =>
    ⟨text, expectation, position⟩

end ClientGen.TypeExpr

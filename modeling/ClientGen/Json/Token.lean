import ClientGen.Data.Source

/-!
# Tokens of JSON

The characters of a JSON text are taken one at a time by an automaton that emits a token when one
is complete. A flaw inside a token is emitted as a token too; what follows it does not matter. A
text in quotes carries its flaw itself, because its beginning can already be at fault.
-/

namespace ClientGen.Json

open Data

/-- A token. -/
inductive Token where
  | mark (symbol : Char)
  | null
  | bool (value : Bool)
  | numeral (value : Numeral)
  | quoted (value : Quoted)
  | unfinishedNumber
  | flawed (flaw : Flaw)

/-- Which part of a numeral is being read. -/
inductive NumeralPart where
  | start
  | zero
  | whole
  | point
  | fraction
  | exponentSign
  | exponentStart
  | exponent
  deriving DecidableEq

/-- A numeral being read; the digits of its parts are in reverse order. -/
structure OpenNumeral where
  part : NumeralPart
  negative : Bool
  whole : List Nat
  fraction : List Nat
  exponentNegative : Bool
  exponent : List Nat

/-- What the automaton is in the middle of. -/
inductive Mode where
  | between
  /-- The rest of a literal name, and the token it stands for. -/
  | literal (rest : List Char) (token : Token)
  | number (numeral : OpenNumeral)
  /-- Inside quotes, with the units so far in reverse order. -/
  | text (units : List TextUnit)
  | escape (units : List TextUnit)
  /-- Inside a numeric escape, with the number of digits that are missing. -/
  | code (units : List TextUnit) (missing : Nat) (value : Nat)
  /-- Behind a flaw. -/
  | stopped

/-- The characters that JSON skips between tokens. -/
def isSpace (c : Char) : Bool :=
  c == ' ' || c == '\n' || c == '\t' || c == '\r'

/-- The value of a decimal digit. -/
def digitValue (c : Char) : Nat :=
  c.toNat - '0'.toNat

/-- The value of a hexadecimal digit of either case. -/
def hexValue? (c : Char) : Option Nat :=
  if '0' ≤ c && c ≤ '9' then some (c.toNat - '0'.toNat)
  else if 'a' ≤ c && c ≤ 'f' then some (c.toNat - 'a'.toNat + 10)
  else if 'A' ≤ c && c ≤ 'F' then some (c.toNat - 'A'.toNat + 10)
  else none

/-- Whether a numeral may end in this part. -/
def NumeralPart.isComplete : NumeralPart → Bool
  | .zero | .whole | .fraction | .exponent => true
  | .start | .point | .exponentSign | .exponentStart => false

/-- The numeral that was read. -/
def OpenNumeral.close (numeral : OpenNumeral) : Numeral :=
  { negative := numeral.negative
    whole := numeral.whole.reverse
    fraction := if numeral.fraction.isEmpty then none else some numeral.fraction.reverse
    exponent :=
      if numeral.exponent.isEmpty then none
      else some ⟨numeral.exponentNegative, numeral.exponent.reverse⟩ }

/-- Takes a character that continues a numeral. -/
def OpenNumeral.take? (numeral : OpenNumeral) (c : Char) : Option OpenNumeral :=
  if c.isDigit then
    let digit := digitValue c
    match numeral.part with
    | .start =>
      some { numeral with part := if digit == 0 then .zero else .whole, whole := [digit] }
    | .zero => none
    | .whole => some { numeral with whole := digit :: numeral.whole }
    | .point | .fraction =>
      some { numeral with part := .fraction, fraction := digit :: numeral.fraction }
    | .exponentSign | .exponentStart | .exponent =>
      some { numeral with part := .exponent, exponent := digit :: numeral.exponent }
  else if c == '.' && (numeral.part == .zero || numeral.part == .whole) then
    some { numeral with part := .point }
  else if (c == 'e' || c == 'E') &&
      (numeral.part == .zero || numeral.part == .whole || numeral.part == .fraction) then
    some { numeral with part := .exponentSign }
  else if (c == '+' || c == '-') && numeral.part == .exponentSign then
    some { numeral with part := .exponentStart, exponentNegative := c == '-' }
  else none

/-- The beginning of a numeral. -/
def OpenNumeral.empty (negative : Bool) : OpenNumeral :=
  ⟨.start, negative, [], [], false, []⟩

/-- Takes a character between two tokens. -/
def takeBetween (c : Char) : List Token × Mode :=
  if isSpace c then ([], .between)
  else if c == '[' || c == ']' || c == '\x7b' || c == '\x7d' || c == ',' || c == ':' then
    ([.mark c], .between)
  else if c == '"' then ([], .text [])
  else if c == 'n' then ([], .literal ['u', 'l', 'l'] .null)
  else if c == 't' then ([], .literal ['r', 'u', 'e'] (.bool true))
  else if c == 'f' then ([], .literal ['a', 'l', 's', 'e'] (.bool false))
  else if c == '-' then ([], .number (.empty true))
  else
    match (OpenNumeral.empty false).take? c with
    | some numeral => ([], .number numeral)
    | none => ([.flawed .malformed], .stopped)

/-- The character that a one-letter escape stands for. -/
def unescape? (c : Char) : Option Char :=
  if c == '"' || c == '\\' || c == '/' then some c
  else if c == 'b' then some '\x08'
  else if c == 'f' then some '\x0c'
  else if c == 'n' then some '\n'
  else if c == 'r' then some '\r'
  else if c == 't' then some '\t'
  else none

/-- The unit of an escaped code. -/
def codeUnit (code : Nat) : TextUnit :=
  if 0xD800 ≤ code && code < 0xE000 then .surrogate code else .char (Char.ofNat code)

/-- A text that ends here because of a flaw. -/
def flawedText (units : List TextUnit) (flaw : Flaw) : Token :=
  .quoted ⟨units.reverse, some flaw⟩

/-- Takes one character. -/
def Mode.take (mode : Mode) (c : Char) : List Token × Mode :=
  match mode with
  | .between => takeBetween c
  | .literal [] token =>
    let (tokens, next) := takeBetween c
    (token :: tokens, next)
  | .literal (expected :: rest) token =>
    if c == expected then
      match rest with
      | [] => ([token], .between)
      | _ => ([], .literal rest token)
    else ([.flawed .malformed], .stopped)
  | .number numeral =>
    match numeral.take? c with
    | some longer => ([], .number longer)
    | none =>
      if numeral.part.isComplete && !(numeral.part == .zero && c.isDigit) then
        let (tokens, next) := takeBetween c
        (.numeral numeral.close :: tokens, next)
      else ([.flawed .malformed], .stopped)
  | .text units =>
    if c == '"' then ([.quoted ⟨units.reverse, none⟩], .between)
    else if c == '\\' then ([], .escape units)
    else if c.toNat < 32 then ([flawedText units .malformed], .stopped)
    else ([], .text (.char c :: units))
  | .escape units =>
    if c == 'u' then ([], .code units 4 0)
    else
      match unescape? c with
      | some plain => ([], .text (.char plain :: units))
      | none => ([flawedText units .malformed], .stopped)
  | .code units missing value =>
    match hexValue? c with
    | some digit =>
      let code := 16 * value + digit
      if missing ≤ 1 then ([], .text (codeUnit code :: units))
      else ([], .code units (missing - 1) code)
    | none => ([flawedText units .malformed], .stopped)
  | .stopped => ([], .stopped)

/-- The token that the end of the text completes or cuts off. -/
def Mode.finish : Mode → List Token
  | .between | .stopped => []
  | .literal [] token => [token]
  | .literal _ _ => [.flawed .truncated]
  | .number numeral =>
    if numeral.part.isComplete then [.numeral numeral.close] else [.unfinishedNumber]
  | .text units | .escape units | .code units _ _ => [flawedText units .truncated]

/-- The tokens of the characters that are left. -/
def tokensFrom (mode : Mode) : List Char → List Token
  | [] => mode.finish
  | c :: rest =>
    let (tokens, next) := mode.take c
    tokens ++ tokensFrom next rest

/-- The tokens of a text. -/
def tokens (text : String) : List Token :=
  tokensFrom .between text.toList

end ClientGen.Json

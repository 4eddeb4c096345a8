import ClientGen.Data.Settle
import ClientGen.Yaml.Chars

/-!
# Writing texts in YAML

A text is written without quotes where it reads back as the same text, as a block of lines if it has
several, and in quotes otherwise; double quotes are needed for characters that have to be escaped
and for blanks beside line ends. `Text.Traits` gathers what the choice depends on.
-/

namespace ClientGen.Yaml

/-- How a text is written. -/
inductive ScalarForm where
  | plain
  | singleQuoted
  | doubleQuoted
  | block
  deriving DecidableEq, Repr

/-- Characters that mean something at the beginning of a scalar. -/
def isIndicator (c : Char) : Bool :=
  "#,[]\x7b\x7d&*!|>'\"%@\x60".toList.contains c

/-- Whether a scalar without quotes cannot begin with some characters. -/
def beginsBadly : List Char → Bool
  | [] => false
  | c :: cs =>
    isIndicator c || (c == '?' || c == ':' || c == '-') && endsWord cs.head? ||
      ['-', '-', '-'].isPrefixOf (c :: cs) || ['.', '.', '.'].isPrefixOf (c :: cs)

/-- Whether a scalar without quotes would end early: at a colon before a blank, or at a number sign
behind one. `previous` is the character before. -/
def endsEarly (previous : Char) : List Char → Bool
  | [] => false
  | c :: cs =>
    c == ':' && endsWord cs.head? || c == '#' && endsWord (some previous) || endsEarly c cs

/-- Whether one of two kinds of characters comes directly before the other kind. -/
def hasPair (first second : Char → Bool) : List Char → Bool
  | c :: d :: cs => first c && second d || hasPair first second (d :: cs)
  | _ => false

/-- Whether a character is a space. -/
def isSpace (c : Char) : Bool :=
  c == ' '

/-- Whether a text has to be escaped: it has characters that cannot stand in it, or spaces at the
end of a line. -/
def needsEscapes (cs : List Char) : Bool :=
  cs.any (!isPrintable ·) || hasPair isSpace isBreak cs

/-- Whether a text can stand without quotes. -/
def allowsPlain (cs : List Char) : Bool :=
  !(beginsBadly cs || endsEarly ' ' cs || cs.any isBreak || needsEscapes cs ||
    cs.head?.any isSpace || cs.getLast?.any isSpace)

/-- Whether a text can stand in single quotes. -/
def allowsSingleQuotes (cs : List Char) : Bool :=
  !(needsEscapes cs || hasPair isBreak isSpace cs)

/-- Whether a text can be written as a block. -/
def allowsBlock (cs : List Char) : Bool :=
  !(cs.isEmpty || needsEscapes cs || cs.getLast?.any isSpace)

/-- Whether a scalar without quotes would be read as a text. -/
def readsAsText (text : String) : Bool :=
  match Data.settlePlain text with
  | .ok (.quoted _) => true
  | _ => false

/-- A quoted form of a text. -/
def quotedForm (cs : List Char) : ScalarForm :=
  if allowsSingleQuotes cs then .singleQuoted else .doubleQuoted

/-- The form of a text; a key that is written in front of its value is a simple one. -/
def ScalarForm.ofText (isSimpleKey : Bool) (text : String) : ScalarForm :=
  let cs := text.toList
  if isSimpleKey && cs.any isBreak then .doubleQuoted
  else if cs.contains '\n' then
    if allowsBlock cs && !isSimpleKey then .block else .doubleQuoted
  else if readsAsText text && allowsPlain cs then .plain
  else quotedForm cs

/-- A digit of a hexadecimal number, in upper case. -/
def hexDigit (value : Nat) : Char :=
  (Nat.digitChar value).toUpper

/-- A number in `width` hexadecimal digits. -/
def hexDigits (width value : Nat) : List Char :=
  (List.range width).reverse.map fun place => hexDigit (value / Nat.pow 16 place % 16)

/-- The letters that stand for characters behind a backslash. -/
def shortEscapes : List (Nat × Char) :=
  [(0, '0'), (7, 'a'), (8, 'b'), (9, 't'), (10, 'n'), (11, 'v'), (12, 'f'), (13, 'r'), (27, 'e'),
    (34, '"'), (92, '\\'), (0x85, 'N'), (0x2028, 'L'), (0x2029, 'P')]

/-- A character in double quotes. -/
def escape (c : Char) : List Char :=
  match shortEscapes.lookup c.toNat with
  | some letter => ['\\', letter]
  | none =>
    if isPrintable c then [c]
    else if c.toNat ≤ 0xFF then '\\' :: 'x' :: hexDigits 2 c.toNat
    else if c.toNat ≤ 0xFFFF then '\\' :: 'u' :: hexDigits 4 c.toNat
    else '\\' :: 'U' :: hexDigits 8 c.toNat

/-- Lines at an indentation; `atStart` says whether a line is beginning. Lines without characters
are not indented. -/
def indentLines (indentation : List Char) (spell : Char → List Char) :
    (atStart : Bool) → List Char → List Char
  | _, [] => []
  | atStart, c :: cs =>
    if isBreak c then c :: indentLines indentation spell true cs
    else
      (if atStart then indentation else []) ++ spell c ++ indentLines indentation spell false cs

/-- A text in single quotes. What follows a line end is indented. -/
def singleQuoted (indentation cs : List Char) : List Char :=
  let spell := fun c => if c == '\'' then ['\'', '\''] else [c]
  '\'' :: indentLines indentation spell false cs ++
    (if cs.getLast?.any isBreak then indentation else []) ++ ['\'']

/-- What the header of a block says about the indentation of its first line. -/
def indentationHint (cs : List Char) : List Char :=
  if cs.head?.any fun c => isSpace c || isBreak c then ['2'] else []

/-- What the header of a block says about the line ends behind the last character. -/
def endingHint (cs : List Char) : List Char :=
  match cs.reverse with
  | [] => ['-']
  | [c] => if isBreak c then ['+'] else ['-']
  | c :: before :: _ => if !isBreak c then ['-'] else if isBreak before then ['+'] else []

/-- A text as a block. The line end behind it is left to what follows. -/
def block (indentation cs : List Char) : List Char :=
  let lines := indentLines indentation ([·]) true cs
  '|' :: indentationHint cs ++ endingHint cs ++
    '\n' :: if cs.getLast?.any isBreak then lines.dropLast else lines

/-- A text in some form; what has several lines is indented. -/
def spellText (form : ScalarForm) (indentation : List Char) (text : String) : List Char :=
  let cs := text.toList
  match form with
  | .plain => cs
  | .singleQuoted => singleQuoted indentation cs
  | .doubleQuoted => '"' :: cs.flatMap escape ++ ['"']
  | .block => block indentation cs

end ClientGen.Yaml

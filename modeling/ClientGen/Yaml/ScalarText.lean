import ClientGen.Data.Plain
import ClientGen.Yaml.Placed

/-!
# Texts of scalars

Scalars without quotes and those in quotes may go over several lines, which are folded: a line end
becomes a space, and of several line ends the first is dropped. Blocks keep their lines or fold
them, and say in their header how their end is treated and how far they are indented.
-/

namespace ClientGen.Yaml

/-- What the blanks and line ends between two words become. -/
def foldGap (gap : List Char) : List Char :=
  match gap.filter isBreak with
  | [] => gap
  | ['\n'] => [' ']
  | '\n' :: others => others
  | breaks => breaks

/-- Whether a character stands between words. -/
def isGap (c : Char) : Bool :=
  isBlank c || isBreak c

/-! ## Without quotes -/

/-- The length of the word at the beginning of some characters. A colon ends it before a blank. In
brackets indicators end it too, and a colon may not come before one. -/
def wordLength? (inFlow : Bool) : List Placed → Option Nat
  | [] => some 0
  | c :: cs =>
    let next := Placed.next? cs
    if isGap c.char then some 0
    else if inFlow && c.char == ':' && next.any (fun d => isFlowIndicator d || d == '?') then none
    else if c.char == ':' && endsWord next || inFlow && isFlowIndicator c.char then some 0
    else (wordLength? inFlow cs).map (· + 1)

/-- Whether a tab stands where a line is still being indented. -/
def hasTabInIndentation (indent : Nat) (gap : List Placed) : Bool :=
  let afterBreak := gap.dropWhile fun c => !isBreak c.char
  afterBreak.any fun c => c.char == '\t' && c.column < indent

/-- What was read as a scalar without quotes. -/
structure PlainText where
  text : List Char
  rest : List Placed
  /-- Whether it ended with its line. -/
  endsLine : Bool

/-- Reads a scalar without quotes; lines that are indented by less than `indent` do not belong to
it, unless it stands in brackets. `bound` is no less than the number of characters. -/
def plainText? (inFlow : Bool) (indent : Nat) : (bound : Nat) → List Placed → Option PlainText
  | 0, _ => none
  | bound + 1, cs =>
    if Placed.atMarker cs || Placed.next? cs == some '#' then some ⟨[], cs, false⟩
    else do
      let length ← wordLength? inFlow cs
      let word := Placed.chars (cs.take length)
      let rest := cs.drop length
      let gap := rest.takeWhile fun c => isGap c.char
      if gap.isEmpty then some ⟨word, rest, false⟩
      else
        guard (!hasTabInIndentation indent gap)
        let rest := rest.drop gap.length
        let endsLine := gap.any fun c => isBreak c.char
        if !inFlow && rest.head?.any (·.column < indent) then some ⟨word, rest, endsLine⟩
        else
          let others ← plainText? inFlow indent bound rest
          if others.text.isEmpty then some { others with text := word, endsLine }
          else
            some { others with text := word ++ foldGap (Placed.chars gap) ++ others.text }

/-! ## In quotes -/

/-- What the characters behind a backslash stand for, apart from codes. -/
def escapes : List (Char × Nat) :=
  [('0', 0), ('a', 7), ('b', 8), ('t', 9), ('\t', 9), ('n', 10), ('v', 11), ('f', 12), ('r', 13),
    ('e', 27), (' ', 32), ('"', 34), ('/', 47), ('\\', 92), ('N', 0x85), ('_', 0xA0),
    ('L', 0x2028), ('P', 0x2029)]

/-- How many digits a code has, behind a letter that announces one. -/
def codeLengths : List (Char × Nat) :=
  [('x', 2), ('u', 4), ('U', 8)]

/-- Reads what follows a backslash. -/
def escaped? : List Placed → Option (Char × List Placed)
  | [] => none
  | c :: cs =>
    match escapes.lookup c.char, codeLengths.lookup c.char with
    | some code, _ => some (Char.ofNat code, cs)
    | none, some length => do
      guard (length ≤ cs.length)
      let code ← Data.Plain.natural? 16 (Placed.chars (cs.take length))
      guard code.isValidChar
      some (Char.ofNat code, cs.drop length)
    | none, none => none

/-- Reads a text in quotes behind the opening one. `bound` is no less than the number of
characters. -/
def quotedText? (quote : Char) : (bound : Nat) → List Placed → Option (List Char × List Placed)
  | 0, _ => none
  | _, [] => none
  | bound + 1, c :: cs => do
    guard (!Placed.atMarker (c :: cs))
    let isDouble := quote == '"'
    if isGap c.char then
      let (gap, rest) := Placed.span isGap (c :: cs)
      let (text, rest) ← quotedText? quote bound rest
      some (foldGap gap ++ text, rest)
    else if c.char == quote then
      if !isDouble && Placed.next? cs == some quote then
        let (text, rest) ← quotedText? quote bound (cs.drop 1)
        some (quote :: text, rest)
      else some ([], cs)
    else if isDouble && c.char == '\\' then
      if (Placed.next? cs).any isBreak then
        let (gap, rest) := Placed.span isGap (cs.drop 1)
        let (text, rest) ← quotedText? quote bound rest
        some (gap.filter isBreak ++ text, rest)
      else
        let (meant, rest) ← escaped? cs
        let (text, rest) ← quotedText? quote bound rest
        some (meant :: text, rest)
    else
      let (text, rest) ← quotedText? quote bound cs
      some (c.char :: text, rest)

/-! ## Blocks -/

/-- What happens to the line ends behind a block. -/
inductive Chomping where
  | strip
  | clip
  | keep
  deriving DecidableEq

/-- Reads the sign in the header of a block. -/
def chomping (cs : List Placed) : Option Chomping × List Placed :=
  match cs with
  | c :: rest =>
    if c.char == '+' then (some .keep, rest)
    else if c.char == '-' then (some .strip, rest)
    else (none, cs)
  | [] => (none, cs)

/-- Reads the digit in the header of a block, which may not be zero. -/
def increment? (cs : List Placed) : Option (Option Nat × List Placed) :=
  match cs with
  | c :: rest =>
    if c.char == '0' then none
    else if c.char.isDigit then some (some (c.char.toNat - '0'.toNat), rest)
    else some (none, cs)
  | [] => some (none, cs)

/-- Reads the header of a block: the sign and the digit in any order. -/
def blockHeader? (cs : List Placed) : Option (Chomping × Option Nat × List Placed) := do
  let (before, cs) := chomping cs
  let (increment, cs) ← increment? cs
  let (after, cs) := if before.isNone && increment.isSome then chomping cs else (none, cs)
  some ((before.or after).getD .clip, increment, cs)

/-- Drops blanks and a comment at the end of a line, and the end itself. -/
def endLine? (cs : List Placed) : Option (List Placed) :=
  let (_, cs) := Placed.span isBlank cs
  let (_, cs) :=
    if Placed.next? cs == some '#' then Placed.span (fun c => !isBreak c) cs else ([], cs)
  match cs with
  | [] => some []
  | c :: rest => if isBreak c.char then some rest else none

/-- Reads empty lines in front of a line of a block, up to its indentation, which may not be known
yet. Gives their line ends, the greatest column that was reached, and the rest. -/
def emptyLines? (indent : Option Nat) (reached : Nat) :
    List Placed → Option (List Char × Nat × List Placed)
  | [] => some ([], reached, [])
  | c :: cs =>
    let inside := indent.all (c.column < ·)
    if inside && c.char == ' ' then emptyLines? indent (max reached (c.column + 1)) cs
    else if inside && c.char == '\t' then none
    else if isBreak c.char then
      (emptyLines? indent reached cs).map fun (breaks, reached, rest) =>
        (c.char :: breaks, reached, rest)
    else some ([], max reached c.column, c :: cs)

/-- Reads the lines of a block behind the first empty ones. `pending` are the line ends since the
last line: its own, which is missing at first, and those of empty lines. -/
def blockLines? (folded : Bool) (indent : Nat) :
    (bound : Nat) → (pending : List Char × List Char) → (afterBlank : Bool) → List Placed →
      Option (List Char × (List Char × List Char) × List Placed)
  | 0, _, _, _ => none
  | bound + 1, (own, empty), afterBlank, cs =>
    match cs with
    | [] => some ([], (own, empty), [])
    | c :: _ =>
      if c.column != indent then some ([], (own, empty), cs)
      else do
        let isBlankLine := isBlank c.char
        let joined :=
          if folded && own == ['\n'] && !afterBlank && !isBlankLine then
            (if empty.isEmpty then [' '] else empty)
          else own ++ empty
        let (line, rest) := Placed.span (fun c => !isBreak c) cs
        let own := (rest.take 1).map (·.char)
        let (empty, _, rest) ← emptyLines? (some indent) 0 (rest.drop 1)
        let (others, pending, rest) ← blockLines? folded indent bound (own, empty) isBlankLine rest
        some (joined ++ line ++ others, pending, rest)

/-- Reads a block behind its indicator; `outer` is the indentation around it, plus one. -/
def blockText? (folded : Bool) (outer : Nat) (cs : List Placed) :
    Option (List Char × List Placed) := do
  let (chomping, increment, rest) ← blockHeader? cs
  let rest ← endLine? rest
  let indent := increment.map fun width => if outer = 0 then width else outer - 1 + width
  let (empty, reached, rest) ← emptyLines? indent 0 rest
  let indent := indent.getD (max reached (max outer 1))
  let (text, (own, empty), rest) ←
    blockLines? folded indent (rest.length + 1) ([], empty) false rest
  let ending :=
    match chomping with
    | .strip => []
    | .clip => own
    | .keep => own ++ empty
  some (text ++ ending, rest)

end ClientGen.Yaml

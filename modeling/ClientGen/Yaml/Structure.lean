import ClientGen.Yaml.Token

/-!
# Structure of a YAML text

Indentation and colons say where lists and records in blocks begin and end. Both are only known
afterwards: a record begins before its first key, and that something was a key shows in the colon
behind it. So `Structure` keeps, for every pair of brackets that is open, the place in the row of
tokens where a key may have begun, and puts the missing tokens in there.

A key in front of its value stands on one line with it, no more than 1024 characters away.
-/

namespace ClientGen.Yaml

/-- A place where a key may have begun. -/
structure KeyPlace where
  /-- Whether it has to be a key, because it is indented like one. -/
  isRequired : Bool
  /-- How many tokens stand in front of it. -/
  index : Nat
  line : Nat
  column : Nat

/-- What is known about a text up to some place. -/
structure Structure where
  /-- The tokens so far, last one first. -/
  tokens : List Token := []
  /-- The columns of the lists and records that are open, innermost first. -/
  columns : List Nat := []
  /-- The places where a key may have begun, in the innermost brackets and in those around. -/
  keys : List (Option KeyPlace) := [none]
  /-- Whether a key may begin here. -/
  keyAllowed : Bool := true

namespace Structure

/-- Whether any brackets are open. -/
def inFlow (state : Structure) : Bool :=
  1 < state.keys.length

/-- The indentation of the innermost list or record plus one, or zero. -/
def outer (state : Structure) : Nat :=
  match state.columns with
  | [] => 0
  | column :: _ => column + 1

/-- Adds a token. -/
def push (token : Token) (state : Structure) : Structure :=
  { state with tokens := token :: state.tokens }

/-- Puts a token behind the first `index` ones. -/
def insertAt (index : Nat) (token : Token) (state : Structure) : Structure :=
  let later := state.tokens.length - index
  { state with tokens := state.tokens.take later ++ token :: state.tokens.drop later }

/-- Forgets the places of keys that are too far away; none of them may be required. -/
def forget? (line column : Nat) (state : Structure) : Option Structure := do
  let keys ← state.keys.mapM fun
    | none => some none
    | some key =>
      if key.line < line || key.column + 1024 < column then
        if key.isRequired then none else some none
      else some (some key)
  some { state with keys }

/-- Forgets the place of a key in the innermost brackets, which may not be required. -/
def dropKey? (state : Structure) : Option Structure :=
  match state.keys with
  | some key :: keys => if key.isRequired then none else some { state with keys := none :: keys }
  | _ => some state

/-- Remembers that a key may begin here. -/
def noteKey? (place : Placed) (state : Structure) : Option Structure :=
  if state.keyAllowed then do
    let state ← state.dropKey?
    let key : KeyPlace :=
      { isRequired := !state.inFlow && state.columns.head? == some place.column
        index := state.tokens.length
        line := place.line
        column := place.column }
    some { state with keys := some key :: state.keys.drop 1 }
  else some state

/-- Begins a list or a record in a block, unless one is open at the column. -/
def beginBlock (column : Nat) (index : Option Nat) (token : Token) (state : Structure) :
    Structure :=
  if !state.inFlow && state.outer ≤ column then
    let state := { state with columns := column :: state.columns }
    match index with
    | some index => state.insertAt index token
    | none => state.push token
  else state

/-- Ends some of the lists and records in blocks. -/
def endBlocks (count : Nat) (state : Structure) : Structure :=
  { state with
    tokens := List.replicate count .blockEnd ++ state.tokens
    columns := state.columns.drop count }

/-- Ends the lists and records in blocks that are indented further than a column. -/
def endBlocksTo (column : Nat) (state : Structure) : Structure :=
  if state.inFlow then state
  else state.endBlocks (state.columns.takeWhile (column < ·)).length

/-- Ends all lists and records in blocks. -/
def endAllBlocks (state : Structure) : Structure :=
  if state.inFlow then state else state.endBlocks state.columns.length

/-- Comes to a sign between documents or in front of them. -/
def atDocument? (state : Structure) : Option Structure := do
  let state ← state.endAllBlocks.dropKey?
  some { state with keyAllowed := false }

/-- Opens brackets. -/
def openFlow? (place : Placed) (token : Token) (state : Structure) : Option Structure := do
  let state ← state.noteKey? place
  some { state.push token with keys := none :: state.keys, keyAllowed := true }

/-- Closes brackets. -/
def closeFlow? (token : Token) (state : Structure) : Option Structure := do
  let state ← state.dropKey?
  let keys := if state.inFlow then state.keys.drop 1 else state.keys
  some { state.push token with keys, keyAllowed := false }

/-- Comes to a comma in brackets. -/
def atComma? (state : Structure) : Option Structure := do
  let state ← state.dropKey?
  some { state.push .comma with keyAllowed := true }

/-- Comes to the hyphen of an item. -/
def atItem? (column : Nat) (state : Structure) : Option Structure := do
  guard (state.inFlow || state.keyAllowed)
  let state ← (state.beginBlock column none .blockList).dropKey?
  some { state.push .item with keyAllowed := true }

/-- Comes to the question mark in front of a key. -/
def atKey? (column : Nat) (state : Structure) : Option Structure := do
  guard (state.inFlow || state.keyAllowed)
  let state ← (state.beginBlock column none .blockRecord).dropKey?
  some { state.push .key with keyAllowed := !state.inFlow }

/-- Comes to the colon in front of a value. -/
def atValue? (column : Nat) (state : Structure) : Option Structure :=
  match state.keys with
  | some key :: keys =>
    let state := { state with keys := none :: keys }
    let state := (state.insertAt key.index .key).beginBlock key.column (some key.index) .blockRecord
    some { state.push .value with keyAllowed := false }
  | _ => do
    guard (state.inFlow || state.keyAllowed)
    let state := state.beginBlock column none .blockRecord
    some { state.push .value with keyAllowed := !state.inFlow }

/-- Comes to something that may be a key. -/
def atWord? (place : Placed) (token : Token) (state : Structure) : Option Structure := do
  let state ← state.noteKey? place
  some { state.push token with keyAllowed := false }

/-- Drops blanks, comments and line ends in front of a token. Behind the end of a line a key may
begin, unless brackets are open; where one may begin, tabs are no blanks. -/
def skipBlanks (state : Structure) : List Placed → Structure × List Placed
  | [] => (state, [])
  | c :: cs =>
    if c.char == ' ' || c.char == '\t' && (state.inFlow || !state.keyAllowed) then
      skipBlanks state cs
    else if isBreak c.char then
      skipBlanks { state with keyAllowed := state.keyAllowed || !state.inFlow } cs
    else (state, c :: cs)

/-- Drops a comment. -/
def skipComment (cs : List Placed) : List Placed :=
  if Placed.next? cs == some '#' then (Placed.span (fun c => !isBreak c) cs).2 else cs

/-- Drops everything in front of a token; `bound` is no less than the number of characters. -/
def skipToToken : (bound : Nat) → Structure → List Placed → Structure × List Placed
  | 0, state, cs => (state, cs)
  | bound + 1, state, cs =>
    let (state, rest) := state.skipBlanks cs
    if Placed.next? rest == some '#' then skipToToken bound state (skipComment rest)
    else (state, rest)

/-- Reads the token that begins with a character, behind what is dropped. -/
def readToken? (state : Structure) (c : Placed) (cs : List Placed) :
    Option (Structure × List Placed) := do
  let inFlow := state.inFlow
  let next := Placed.next? cs
  let signed := inFlow || endsWord next
  let bound := cs.length + 2
  if c.column == 0 && c.char == '%' then
    let state ← state.atDocument?
    let (token, rest) ← directive? cs
    some (state.push token, rest)
  else if Placed.atMarker (c :: cs) then
    let state ← state.atDocument?
    let token := if c.char == '-' then Token.documentStart else .documentEnd
    some (state.push token, cs.drop 2)
  else if c.char == '[' then some (← state.openFlow? c .flowList, cs)
  else if c.char == '\x7b' then some (← state.openFlow? c .flowRecord, cs)
  else if c.char == ']' then some (← state.closeFlow? .flowListEnd, cs)
  else if c.char == '\x7d' then some (← state.closeFlow? .flowRecordEnd, cs)
  else if c.char == ',' then some (← state.atComma?, cs)
  else if c.char == '-' && endsWord next then some (← state.atItem? c.column, cs)
  else if c.char == '?' && signed then some (← state.atKey? c.column, cs)
  else if c.char == ':' && signed then some (← state.atValue? c.column, cs)
  else if c.char == '*' || c.char == '&' then
    let (name, rest) ← anchorName? cs
    let token := if c.char == '*' then Token.alias name else .anchor name
    some (← state.atWord? c token, rest)
  else if c.char == '!' then
    let (token, rest) ← tag? inFlow cs
    some (← state.atWord? c token, rest)
  else if (c.char == '|' || c.char == '>') && !inFlow then
    let state ← state.dropKey?
    let (text, rest) ← blockText? (c.char == '>') state.outer cs
    some ({ state.push (.quoted (String.ofList text)) with keyAllowed := true }, rest)
  else if c.char == '\'' || c.char == '"' then
    let (text, rest) ← quotedText? c.char bound cs
    some (← state.atWord? c (.quoted (String.ofList text)), rest)
  else if beginsPlain inFlow (c :: cs) then
    let plain ← plainText? inFlow state.outer bound (c :: cs)
    let state ← state.atWord? c (.plain (String.ofList plain.text))
    some ({ state with keyAllowed := plain.endsLine }, plain.rest)
  else none

/-- Reads all tokens; `bound` is greater than the number of characters. -/
def readTokens? : (bound : Nat) → Structure → List Placed → Option (List Token)
  | 0, _, _ => none
  | bound + 1, state, cs => do
    let (state, cs) := skipToToken (cs.length + 1) state cs
    match cs with
    | [] =>
      let state ← state.endAllBlocks.dropKey?
      some state.tokens.reverse
    | c :: rest =>
      let state ← state.forget? c.line c.column
      let (state, rest) ← (state.endBlocksTo c.column).readToken? c rest
      readTokens? bound state rest

end Structure

/-- The tokens of a text. -/
def tokens? (text : String) : Option (List Token) := do
  let cs ← place? text
  Structure.readTokens? (cs.length + 1) {} cs

end ClientGen.Yaml

import ClientGen.Yaml.ScalarText

/-!
# Tokens of YAML

The signs, names and scalars that a text is made of. `word?` reads the ones whose meaning does not
depend on what came before: anchors, aliases, tags, directives and scalars.
-/

namespace ClientGen.Yaml

/-- A token. Lists and records in blocks have a beginning and an end without signs of their own. -/
inductive Token where
  | version (major minor : Nat)
  /-- Declares what a handle in front of tags stands for. -/
  | handle (handle stem : String)
  | documentStart
  | documentEnd
  | blockList
  | blockRecord
  | blockEnd
  | flowList
  | flowListEnd
  | flowRecord
  | flowRecordEnd
  | item
  | comma
  | key
  | value
  | alias (name : String)
  | anchor (name : String)
  | tag (handle suffix : String)
  | plain (text : String)
  | quoted (text : String)
  deriving DecidableEq, Repr

/-! ## Anchors -/

/-- Reads the name of an anchor or an alias. -/
def anchorName? (cs : List Placed) : Option (String × List Placed) := do
  let (name, rest) := Placed.span isNameChar cs
  let next := Placed.next? rest
  guard (!name.isEmpty && (endsWord next || next.any "?:,]\x7d%@\x60".toList.contains))
  some (String.ofList name, rest)

/-! ## Tags -/

/-- Whether a character may stand in a tag; those with a meaning in brackets only if `verbatim`. -/
def isTagChar (verbatim : Bool) (c : Char) : Bool :=
  isNameChar c || ";/?:@&=+$.%!~*'()".toList.contains c || verbatim && ",[]".toList.contains c

/-- How many bytes a character takes that begins with a given one. -/
def byteCount? (first : Nat) : Option Nat :=
  if first < 0x80 then some 1
  else if first < 0xC0 then none
  else if first < 0xE0 then some 2
  else if first < 0xF0 then some 3
  else if first < 0xF8 then some 4
  else none

/-- Replaces bytes that are written as a percent sign and two digits; `bound` is no less than the
number of characters. -/
def unescapeTag? : (bound : Nat) → List Char → Option (List Char)
  | _, [] => some []
  | 0, _ => none
  | bound + 1, '%' :: cs => do
    let byteAt := fun (place : Nat) => do
      let digits := (('%' :: cs).drop (3 * place)).take 3
      guard (digits.head? == some '%' && digits.length == 3)
      Data.Plain.natural? 16 (digits.drop 1)
    let count ← byteCount? (← byteAt 0)
    let bytes ← (List.range count).mapM byteAt
    let text ← String.fromUTF8? (ByteArray.mk (bytes.map UInt8.ofNat).toArray)
    let others ← unescapeTag? bound (cs.drop (3 * count - 1))
    some (text.toList ++ others)
  | bound + 1, c :: cs => (unescapeTag? bound cs).map (c :: ·)

/-- Reads the characters of a tag, percent signs replaced. -/
def tagChars? (verbatim : Bool) (cs : List Placed) : Option (List Char × List Placed) := do
  let (raw, rest) := Placed.span (isTagChar verbatim) cs
  let text ← unescapeTag? raw.length raw
  some (text, rest)

/-- Reads a tag behind its exclamation mark: in angle brackets, under a handle, or local. -/
def shorthandTag? (cs : List Placed) : Option (Token × List Placed) := do
  let (name, rest) := Placed.span isNameChar cs
  match Placed.next? rest with
  | some '!' =>
    let (suffix, rest) ← tagChars? false (rest.drop 1)
    guard (!suffix.isEmpty)
    some (.tag (String.ofList ('!' :: name ++ ['!'])) (String.ofList suffix), rest)
  | _ =>
    let (others, rest) ← tagChars? false rest
    let suffix := name ++ others
    if suffix.isEmpty then some (.tag "" "!", rest)
    else some (.tag "!" (String.ofList suffix), rest)

/-- Reads a tag behind its exclamation mark. A blank or, in brackets, a comma has to follow it. -/
def tag? (inFlow : Bool) (cs : List Placed) : Option (Token × List Placed) := do
  let (token, rest) ←
    if Placed.next? cs == some '<' then
      match tagChars? true (cs.drop 1) with
      | some (suffix, rest) =>
        if !suffix.isEmpty && Placed.next? rest == some '>' then
          some (Token.tag "" (String.ofList suffix), rest.drop 1)
        else none
      | none => none
    else shorthandTag? cs
  let next := Placed.next? rest
  guard (endsWord next || inFlow && next == some ',')
  some (token, rest)

/-! ## Directives -/

/-- Reads a number of at most nine digits. -/
def versionPart? (cs : List Placed) : Option (Nat × List Placed) := do
  let (digits, rest) := Placed.span Char.isDigit cs
  guard (digits.length ≤ 9)
  some (← Data.Plain.natural? 10 digits, rest)

/-- Reads a handle in a directive. -/
def handle? (cs : List Placed) : Option (String × List Placed) := do
  guard (Placed.next? cs == some '!')
  let (name, rest) := Placed.span isNameChar (cs.drop 1)
  if Placed.next? rest == some '!' then
    some (String.ofList ('!' :: name ++ ['!']), rest.drop 1)
  else
    guard name.isEmpty
    some ("!", rest)

/-- Drops at least one blank. -/
def skipBlanks? (cs : List Placed) : Option (List Placed) := do
  guard ((Placed.next? cs).any isBlank)
  some (Placed.span isBlank cs).2

/-- Reads a directive behind its percent sign, to the end of the line. -/
def directive? (cs : List Placed) : Option (Token × List Placed) := do
  let (name, rest) := Placed.span isNameChar cs
  guard (endsWord (Placed.next? rest))
  let (token, rest) ←
    if name == "YAML".toList then do
      let (major, rest) ← versionPart? (Placed.span isBlank rest).2
      guard (Placed.next? rest == some '.')
      let (minor, rest) ← versionPart? (rest.drop 1)
      some (Token.version major minor, rest)
    else if name == "TAG".toList then do
      let (handle, rest) ← handle? (Placed.span isBlank rest).2
      let (stem, rest) ← tagChars? true (← skipBlanks? rest)
      guard (!stem.isEmpty && endsWord (Placed.next? rest))
      some (Token.handle handle (String.ofList stem), rest)
    else none
  some (token, ← endLine? rest)

/-! ## Scalars without quotes -/

/-- Whether a scalar without quotes begins here, if nothing else does. -/
def beginsPlain (inFlow : Bool) (cs : List Placed) : Bool :=
  match cs with
  | [] => false
  | c :: rest =>
    let next := Placed.next? rest
    !(isGap c.char || "-?:,[]\x7b\x7d#&*!|>'\"%@\x60".toList.contains c.char) ||
      c.char == '-' && !next.any isBlank ||
      !inFlow && (c.char == '?' || c.char == ':') && !endsWord next

end ClientGen.Yaml

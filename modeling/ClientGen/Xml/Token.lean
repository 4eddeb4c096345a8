import ClientGen.Data.Plain
import ClientGen.Text.Segment
import ClientGen.Xml.Chars

/-!
# Markup

The pieces that an XML document is made of: tags, texts, and comments and instructions that carry
nothing. `nextPiece?` reads the piece at the beginning of some characters and gives the characters
behind it, or nothing where the document is not well-formed.
-/

namespace ClientGen.Xml

/-- A name with the prefix of its namespace, which may be empty. -/
structure QName where
  nsPrefix : String
  localName : String
  deriving DecidableEq

/-- An attribute as it is written, with its references replaced. -/
structure RawAttribute where
  name : QName
  value : String

/-- A piece of a document. -/
inductive Piece where
  | startTag (name : QName) (attributes : List RawAttribute) (isEmpty : Bool)
  | endTag (name : QName)
  | text (content : List Char)
  | nothing

/-- Drops blanks. -/
def skipSpaces (cs : List Char) : List Char :=
  cs.dropWhile isSpace

/-- Reads characters up to a terminator and drops it; all of them have to be allowed. -/
def upTo? (terminator : List Char) : List Char → Option (List Char × List Char)
  | [] => if terminator.isEmpty then some ([], []) else none
  | c :: cs =>
    match Text.dropBeginning? terminator (c :: cs) with
    | some rest => some ([], rest)
    | none =>
      if isAllowed c then (upTo? terminator cs).map fun (content, rest) => (c :: content, rest)
      else none

/-- Reads a name with its prefix. -/
def qname? (cs : List Char) : Option (QName × List Char) :=
  let name := cs.takeWhile isNameChar
  let rest := cs.drop name.length
  let parts :=
    match Text.splitAt ':' name with
    | [localName] => some ([], localName)
    | [nsPrefix, localName] => some (nsPrefix, localName)
    | _ => none
  match parts with
  | some (nsPrefix, localName) =>
    if nsPrefix.head?.all isNameStart && localName.head?.any isNameStart then
      some (⟨String.ofList nsPrefix, String.ofList localName⟩, rest)
    else none
  | none => none

/-- The characters behind a name without regard to prefixes. -/
def skipName? : List Char → Option (List Char)
  | [] => none
  | c :: cs => if isNameStart c then some (cs.dropWhile isNameChar) else none

/-- The references by name. -/
def namedReferences : List (String × Char) :=
  [("quot", '"'), ("amp", '&'), ("apos", '\''), ("lt", '<'), ("gt", '>')]

/-- The character of a code; there is a substitute for codes that are none. -/
def charOfCode? (code : Nat) : Option Char :=
  if code < Nat.pow 2 32 then
    let c := if code.isValidChar then Char.ofNat code else Char.ofNat 0xFFFD
    if isAllowed c then some c else none
  else none

/-- What a reference stands for, given the characters between the ampersand and the semicolon. -/
def reference? : List Char → Option Char
  | '#' :: 'x' :: digits => (Data.Plain.natural? 16 digits).bind charOfCode?
  | '#' :: digits => (Data.Plain.natural? 10 digits).bind charOfCode?
  | name => namedReferences.lookup (String.ofList name)

/-- Replaces references in characters, and changes the others. `pending` holds the characters of a
reference so far, in reverse order. -/
def expandFrom (change : Char → List Char) (pending : Option (List Char)) :
    List Char → Option (List Char)
  | [] => if pending.isNone then some [] else none
  | c :: cs =>
    match pending with
    | none =>
      if c == '&' then expandFrom change (some []) cs
      else (expandFrom change none cs).map (change c ++ ·)
    | some reference =>
      if c == ';' then do
        let replacement ← reference? reference.reverse
        let others ← expandFrom change none cs
        some (replacement :: others)
      else expandFrom change (some (c :: reference)) cs

/-- Makes one line end of a carriage return and a line feed. -/
def joinLineEnds : List Char → List Char
  | [] => []
  | '\r' :: cs =>
    match joinLineEnds cs with
    | '\n' :: others => '\n' :: others
    | others => '\r' :: others
  | c :: cs => c :: joinLineEnds cs

/-- The content of a text, in which every line ends the same way. -/
def textContent? (cs : List Char) : Option (List Char) :=
  expandFrom (fun c => if c == '\r' then ['\n'] else [c]) none (joinLineEnds cs)

/-- The value of an attribute, in which blanks are spaces. -/
def attributeValue? (cs : List Char) : Option String :=
  (expandFrom (fun c => if isSpace c then [' '] else [c]) none (joinLineEnds cs)).map String.ofList

/-- Reads an attribute. -/
def readAttribute? (cs : List Char) : Option (RawAttribute × List Char) := do
  let (name, rest) ← qname? cs
  match skipSpaces rest with
  | '=' :: rest =>
    match skipSpaces rest with
    | quote :: rest =>
      guard (quote == '"' || quote == '\'')
      let (raw, rest) ← upTo? [quote] rest
      guard (!raw.contains '<')
      let value ← attributeValue? raw
      some (⟨name, value⟩, rest)
    | [] => none
  | _ => none

/-- Reads the attributes and the end of a start tag; `bound` is no less than the number of
characters. -/
def readAttributes? : (bound : Nat) → List Char → Option (List RawAttribute × Bool × List Char)
  | 0, _ => none
  | bound + 1, cs =>
    match skipSpaces cs with
    | '/' :: '>' :: rest => some ([], true, rest)
    | '>' :: rest => some ([], false, rest)
    | rest => do
      guard (cs.head?.any isSpace)
      let (first, rest) ← readAttribute? rest
      let (others, isEmpty, rest) ← readAttributes? bound rest
      some (first :: others, isEmpty, rest)

/-- Reads a comment behind its opening. Two hyphens may not stand in it, nor one at its end. -/
def comment? (cs : List Char) : Option (List Char) := do
  let (content, rest) ← upTo? "-->".toList cs
  guard (!Text.occursIn ['-', '-'] content && content.getLast? != some '-')
  some rest

/-- Reads an instruction behind its opening. -/
def instruction? (cs : List Char) : Option (List Char) := do
  let rest ← skipName? cs
  let (_, rest) ← upTo? ['?', '>'] (skipSpaces rest)
  some rest

/-- Reads a comment or an instruction. A declaration may only stand at the very beginning. -/
def aside? (cs : List Char) : Option (List Char) :=
  match Text.dropBeginning? "<!--".toList cs with
  | some rest => comment? rest
  | none =>
    if (Text.dropBeginning? "<?xml ".toList cs).isSome then none
    else (Text.dropBeginning? "<?".toList cs).bind instruction?

/-- Reads a text, which ends before the next markup or with the document. -/
def text? (cs : List Char) : Option (Piece × List Char) := do
  let raw := cs.takeWhile (· != '<')
  guard (raw.all isAllowed && !Text.occursIn [']', ']', '>'] raw)
  let content ← textContent? raw
  some (.text content, cs.drop raw.length)

/-- Reads the piece at the beginning of some characters inside the root element. -/
def nextPiece? (cs : List Char) : Option (Piece × List Char) :=
  match cs with
  | '<' :: '!' :: '[' :: _ => do
    let rest ← Text.dropBeginning? "<![CDATA[".toList cs
    let (content, rest) ← upTo? [']', ']', '>'] rest
    some (.text content, rest)
  | '<' :: '!' :: _ => (aside? cs).map (.nothing, ·)
  | '<' :: '?' :: _ => (aside? cs).map (.nothing, ·)
  | '<' :: '/' :: rest => do
    let (name, rest) ← qname? rest
    match skipSpaces rest with
    | '>' :: rest => some (.endTag name, rest)
    | _ => none
  | '<' :: rest => do
    let (name, rest) ← qname? rest
    let (attributes, isEmpty, rest) ← readAttributes? (rest.length + 1) rest
    some (.startTag name attributes isEmpty, rest)
  | cs => text? cs

end ClientGen.Xml

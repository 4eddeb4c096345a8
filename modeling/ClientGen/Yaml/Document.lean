import ClientGen.Data.Source
import ClientGen.Yaml.Structure

/-!
# Documents

The value in a YAML text. A text holds one document or none; a text without a document is read like
an empty scalar. An alias stands for the value at its anchor, which must be complete by then.
-/

namespace ClientGen.Yaml

open Data

/-- What is left of the tokens, and what names in them stand for. -/
structure Unread where
  tokens : List Token
  anchors : List (String × Source) := []
  handles : List (String × String) := [("!", "!"), ("!!", "tag:yaml.org,2002:")]

/-- A step that reads a part of the tokens. -/
abbrev Step := StateT Unread Option

/-- The next token. -/
def peek : Step (Option Token) := do
  return (← get).tokens.head?

/-- Passes over the next token. -/
def advance : Step Unit :=
  modify fun unread => { unread with tokens := unread.tokens.drop 1 }

/-- Passes over a token if it comes next, and tells whether it did. -/
def accept (token : Token) : Step Bool := do
  if (← peek) == some token then
    advance
    return true
  else return false

/-- Passes over a token that has to come next. -/
def expect (token : Token) : Step Unit := do
  guard (← accept token)

/-- Whether one of some tokens comes next. -/
def atOneOf (tokens : List Token) : Step Bool := do
  return (← peek).any tokens.contains

/-- What stands where a value is missing. -/
def emptyScalar : Source :=
  .plain ""

/-- A key that is no text: it can be passed over but not read. -/
def unreadableKey : Quoted :=
  ⟨[.surrogate 0xDC00], none⟩

/-- A value as a key. -/
def asKey : Source → Quoted
  | .plain text => .ofString text
  | .quoted value => value
  | .tagged _ (.plain text) => .ofString text
  | .tagged _ (.quoted value) => value
  | _ => unreadableKey

/-- What is written in front of a value. -/
structure Properties where
  anchor : Option String := none
  tag : Option String := none

/-- The tag for a handle and a suffix. -/
def resolveTag (handle suffix : String) : Step String := do
  if handle.isEmpty then return suffix
  else
    match (← get).handles.lookup handle with
    | some stem => return stem ++ suffix
    | none => failure

/-- Reads an anchor and a tag, in any order and none of them twice. -/
def readProperties : (bound : Nat) → Properties → Step Properties
  | 0, properties => return properties
  | bound + 1, properties => do
    match ← peek, properties.anchor, properties.tag with
    | some (.anchor name), none, _ =>
      advance
      readProperties bound { properties with anchor := some name }
    | some (.tag handle suffix), _, none =>
      advance
      readProperties bound { properties with tag := some (← resolveTag handle suffix) }
    | _, _, _ => return properties

/-- Says what an anchor stands for. -/
def setAnchor (name : String) (source : Source) : Step Unit :=
  modify fun unread => { unread with anchors := (name, source) :: unread.anchors }

/-- Which values may come next. -/
structure Allowed where
  /-- Lists and records in blocks. -/
  blocks : Bool
  /-- Lists whose items are not indented. -/
  bareItems : Bool := false

/-- Values inside brackets. -/
def Allowed.flow : Allowed where
  blocks := false

/-- Values that are items of lists. -/
def Allowed.item : Allowed where
  blocks := true

/-- Values in records. -/
def Allowed.member : Allowed where
  blocks := true
  bareItems := true

mutual

/-- Reads a value. -/
def readNode : (bound : Nat) → Allowed → Step Source
  | 0, _ => failure
  | bound + 1, allowed => do
    if let some (.alias name) ← peek then
      advance
      match (← get).anchors.lookup name with
      | some source => return source
      | none => failure
    let properties ← readProperties 2 {}
    if let some name := properties.anchor then setAnchor name (.flawed .malformed)
    let isMarked := properties.anchor.isSome || properties.tag.isSome
    let content ← readContent bound allowed isMarked
    let source :=
      match properties.tag with
      | some tag => .tagged tag content
      | none => content
    if let some name := properties.anchor then setAnchor name source
    return source

/-- Reads what a value is made of. It may be missing behind an anchor or a tag. -/
def readContent : (bound : Nat) → Allowed → (isMarked : Bool) → Step Source
  | 0, _, _ => failure
  | bound + 1, allowed, isMarked => do
    let token ← peek
    match token, allowed.bareItems, allowed.blocks with
    | some .item, true, _ => return .list (← readBareItems bound) none
    | some (.plain text), _, _ =>
      advance
      return .plain text
    | some (.quoted text), _, _ =>
      advance
      return .quoted (.ofString text)
    | some .flowList, _, _ =>
      advance
      return .list (← readFlowItems bound true) none
    | some .flowRecord, _, _ =>
      advance
      return .record (← readFlowMembers bound true) none
    | some .blockList, _, true =>
      advance
      return .list (← readItems bound) none
    | some .blockRecord, _, true =>
      advance
      return .record (← readMembers bound) none
    | _, _, _ => if isMarked then return emptyScalar else failure

/-- Reads a value that is missing if one of some tokens comes next. -/
def readUnless : (bound : Nat) → List Token → Allowed → Step Source
  | 0, _, _ => failure
  | bound + 1, ends, allowed => do
    if ← atOneOf ends then return emptyScalar else readNode bound allowed

/-- Reads the items of a list in a block, to its end. -/
def readItems : (bound : Nat) → Step (List Source)
  | 0 => failure
  | bound + 1 => do
    if ← accept .blockEnd then return []
    else
      expect .item
      let item ← readUnless bound [.item, .blockEnd] .item
      let items ← readItems bound
      return item :: items

/-- Reads the items of a list that is not indented. -/
def readBareItems : (bound : Nat) → Step (List Source)
  | 0 => failure
  | bound + 1 => do
    if ← accept .item then
      let item ← readUnless bound [.item, .key, .value, .blockEnd] .item
      let items ← readBareItems bound
      return item :: items
    else return []

/-- Reads the members of a record in a block, to its end. -/
def readMembers : (bound : Nat) → Step (List (Quoted × Source))
  | 0 => failure
  | bound + 1 => do
    if ← accept .blockEnd then return []
    else
      expect .key
      let key ← readUnless bound [.key, .value, .blockEnd] .member
      let value ←
        if ← accept .value then readUnless bound [.key, .value, .blockEnd] .member
        else pure emptyScalar
      let members ← readMembers bound
      return (asKey key, value) :: members

/-- Reads the items of a list in brackets, to its end. An item may be a record of one member. -/
def readFlowItems : (bound : Nat) → (isFirst : Bool) → Step (List Source)
  | 0, _ => failure
  | bound + 1, isFirst => do
    if ← accept .flowListEnd then return []
    else
      if !isFirst then expect .comma
      if ← accept .flowListEnd then return []
      let item ←
        if ← accept .key then do
          let ends : List Token := [.value, .comma, .flowListEnd]
          let key ←
            if ← atOneOf ends then do
              advance
              pure emptyScalar
            else readNode bound .flow
          let value ←
            if ← accept .value then readUnless bound [.comma, .flowListEnd] .flow
            else pure emptyScalar
          pure (.record [(asKey key, value)] none)
        else readNode bound .flow
      let items ← readFlowItems bound false
      return item :: items

/-- Reads the members of a record in brackets, to its end. -/
def readFlowMembers : (bound : Nat) → (isFirst : Bool) → Step (List (Quoted × Source))
  | 0, _ => failure
  | bound + 1, isFirst => do
    if ← accept .flowRecordEnd then return []
    else
      if !isFirst then expect .comma
      if ← accept .flowRecordEnd then return []
      let (key, value) ←
        if ← accept .key then do
          let key ← readUnless bound [.value, .comma, .flowRecordEnd] .flow
          let value ←
            if ← accept .value then readUnless bound [.comma, .flowRecordEnd] .flow
            else pure emptyScalar
          pure (key, value)
        else do
          let key ← readNode bound .flow
          pure (key, emptyScalar)
      let members ← readFlowMembers bound false
      return (asKey key, value) :: members

end

/-- Reads the directives in front of a document; tells whether there were any. -/
def readDirectives : (bound : Nat) → (hasVersion : Bool) → (declared : List String) → Step Bool
  | 0, _, _ => failure
  | bound + 1, hasVersion, declared => do
    match ← peek with
    | some (.version major minor) =>
      guard (!hasVersion && major == 1 && (minor == 1 || minor == 2))
      advance
      readDirectives bound true declared
    | some (.handle handle stem) =>
      guard (!declared.contains handle)
      advance
      modify fun unread => { unread with handles := (handle, stem) :: unread.handles }
      readDirectives bound hasVersion (handle :: declared)
    | _ => return hasVersion || !declared.isEmpty

/-- Drops the signs behind a document. -/
def skipEnds : Step Unit :=
  modify fun unread =>
    { unread with tokens := unread.tokens.dropWhile (· == .documentEnd) }

/-- Reads the document in a text. -/
def readDocument (bound : Nat) : Step Source := do
  if (← peek).isNone then return emptyScalar
  let hasDirectives ← readDirectives bound false []
  let isExplicit ← accept .documentStart
  guard (isExplicit || !hasDirectives)
  let isMissing ← atOneOf [.documentStart, .documentEnd]
  let source ←
    if isExplicit && (isMissing || (← peek).isNone) then pure emptyScalar
    else readNode bound .item
  skipEnds
  guard (← peek).isNone
  return source

/-- The value in a text. -/
def document? (text : String) : Option Source := do
  let tokens ← tokens? text
  let (source, _) ← readDocument (4 * tokens.length + 8) { tokens }
  some source

/-- How deep containers may be nested. -/
def maxLevels : Nat := 128

end ClientGen.Yaml

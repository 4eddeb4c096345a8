import ClientGen.Xml.Token

/-!
# Documents

An XML document as a tree of elements and texts. Texts that follow each other directly are one text.
Namespaces have to be declared, and an element may not have two attributes of one name; apart from
that they do not matter here, so elements are known by their local names and attributes with a
prefix are left out. Document type declarations are refused.
-/

namespace ClientGen.Xml

/-- A part of a document. -/
inductive Node where
  | element (name : String) (attributes : List (String × String)) (children : List Node)
  | text (content : List Char)
  | aside

/-- A namespace that is declared: its prefix and its name. -/
abbrev Binding := String × String

/-- The namespace of the prefix `xml`. -/
def xmlSpace : String := "http://www.w3.org/XML/1998/namespace"

/-- The namespace of namespace declarations. -/
def declarationSpace : String := "http://www.w3.org/2000/xmlns/"

/-- The namespaces that an element declares, if it may. -/
def declared? : List RawAttribute → List Binding → Option (List Binding)
  | [], bindings => some bindings
  | ⟨name, value⟩ :: attributes, bindings =>
    if name.nsPrefix == "xmlns" then
      if value == declarationSpace || (name.localName == "xml") != (value == xmlSpace) ||
          bindings.any (·.1 == name.localName) then none
      else if value == xmlSpace then declared? attributes bindings
      else declared? attributes ((name.localName, value) :: bindings)
    else if name.localName == "xmlns" then
      if value == xmlSpace || value == declarationSpace then none
      else declared? attributes bindings
    else declared? attributes bindings

/-- Whether an attribute declares a namespace. -/
def RawAttribute.isDeclaration (raw : RawAttribute) : Bool :=
  raw.name.nsPrefix == "xmlns" || raw.name.localName == "xmlns"

/-- The namespace of a prefix; there is none for an empty prefix. -/
def resolve? (bindings : List Binding) (nsPrefix : String) : Option String :=
  if nsPrefix.isEmpty then some ""
  else if nsPrefix == "xml" then some xmlSpace
  else bindings.lookup nsPrefix

/-- The attributes with the names of their namespaces, if all are known. -/
def resolveAll? (bindings : List Binding) (attributes : List RawAttribute) :
    Option (List ((String × String) × String)) :=
  (attributes.filter (!·.isDeclaration)).mapM fun raw => do
    let space ← resolve? bindings raw.name.nsPrefix
    some ((space, raw.name.localName), raw.value)

/-- An element whose end tag is missing, with its children in reverse order. -/
structure OpenElement where
  name : QName
  attributes : List (String × String)
  bindings : List Binding
  children : List Node

/-- The namespaces that are known inside an element. -/
def bindingsIn : List OpenElement → List Binding
  | [] => []
  | element :: _ => element.bindings

/-- Adds a child to the innermost open element. A text joins the text before it. -/
def addChild (child : Node) (element : OpenElement) : OpenElement :=
  match child, element.children with
  | .text content, .text before :: others =>
    { element with children := .text (before ++ content) :: others }
  | child, children => { element with children := child :: children }

/-- Begins an element inside others. -/
def begin? (name : QName) (attributes : List RawAttribute) (stack : List OpenElement) :
    Option OpenElement := do
  guard (name.nsPrefix != "xmlns")
  let own ← declared? attributes []
  let bindings := own ++ bindingsIn stack
  let _ ← resolve? bindings name.nsPrefix
  let resolved ← resolveAll? bindings attributes
  guard ((resolved.map (·.1)).eraseDups.length == resolved.length)
  let plain := resolved.filterMap fun ((space, localName), value) =>
    if space.isEmpty then some (localName, value) else none
  some ⟨name, plain, bindings, []⟩

/-- The element that an open element becomes. -/
def OpenElement.close (element : OpenElement) : Node :=
  .element element.name.localName element.attributes element.children.reverse

/-- Reads the rest of the root element, inside open elements; `bound` is no less than the number of
characters. Gives the root and the characters behind it. -/
def readContent? : (bound : Nat) → OpenElement → List OpenElement → List Char →
    Option (Node × List Char)
  | 0, _, _, _ => none
  | bound + 1, top, stack, cs => do
    let (piece, rest) ← nextPiece? cs
    match piece with
    | .text content => readContent? bound (addChild (.text content) top) stack rest
    | .nothing => readContent? bound (addChild .aside top) stack rest
    | .startTag name attributes isEmpty =>
      let element ← begin? name attributes (top :: stack)
      if isEmpty then readContent? bound (addChild element.close top) stack rest
      else readContent? bound element (top :: stack) rest
    | .endTag name =>
      guard (name = top.name)
      match stack with
      | [] => some (top.close, rest)
      | parent :: stack => readContent? bound (addChild top.close parent) stack rest

/-- Drops blanks, comments and instructions. -/
def skipAsides? : (bound : Nat) → List Char → Option (List Char)
  | 0, _ => none
  | bound + 1, cs =>
    match skipSpaces cs with
    | '<' :: '!' :: '-' :: rest => (aside? ('<' :: '!' :: '-' :: rest)).bind (skipAsides? bound)
    | '<' :: '?' :: rest => (aside? ('<' :: '?' :: rest)).bind (skipAsides? bound)
    | rest => some rest

/-- Reads an attribute of the declaration, and blanks or the end of the declaration behind it. -/
def declarationPart? (cs : List Char) : Option (List Char) := do
  let (_, rest) ← qname? cs
  match skipSpaces rest with
  | '=' :: rest =>
    match skipSpaces rest with
    | quote :: rest =>
      guard (quote == '"' || quote == '\'')
      let (raw, rest) ← upTo? [quote] rest
      guard (!raw.contains '<')
      guard (rest.head?.all isSpace || (Text.dropBeginning? ['?', '>'] rest).isSome)
      some (skipSpaces rest)
    | [] => none
  | _ => none

/-- Reads an attribute of the declaration that may be missing. -/
def optionalPart? (name : String) (cs : List Char) : Option (List Char) :=
  if (Text.dropBeginning? name.toList cs).isSome then declarationPart? cs else some cs

/-- Drops the declaration that a document may begin with. -/
def skipDeclaration? (cs : List Char) : Option (List Char) :=
  match Text.dropBeginning? "<?xml ".toList cs with
  | none => some cs
  | some rest => do
    let rest := skipSpaces rest
    guard (Text.dropBeginning? "version".toList rest).isSome
    let rest ← declarationPart? rest
    let rest ← optionalPart? "encoding" rest
    let rest ← optionalPart? "standalone" rest
    Text.dropBeginning? ['?', '>'] rest

/-- Drops the mark that may stand in front of a text. -/
def skipByteOrderMark : List Char → List Char
  | c :: cs => if c.toNat == 0xFEFF then cs else c :: cs
  | [] => []

/-- Reads the root element of a document. -/
def parse? (text : String) : Option Node := do
  let cs := skipByteOrderMark text.toList
  let bound := cs.length + 1
  let rest ← skipDeclaration? cs
  let rest ← skipAsides? bound rest
  match rest with
  | '<' :: _ =>
    match ← nextPiece? rest with
    | (.startTag name attributes isEmpty, rest) => do
      let element ← begin? name attributes []
      let (root, rest) ←
        if isEmpty then some (element.close, rest) else readContent? bound element [] rest
      let rest ← skipAsides? bound rest
      if rest.isEmpty then some root else none
    | _ => none
  | _ => none

end ClientGen.Xml

import ClientGen.Documentation.Basic
import ClientGen.Text.Blank
import ClientGen.Xml.Tree

/-!
# Reading documentation

Documentation files list members by signature. The texts of a member stand in elements for its
summary, its parameters and what it returns; a member that has none of these is documented by its
text as a whole. In every text runs of blanks become single spaces, and what stands in different
elements is kept apart by a space.
-/

namespace ClientGen

mutual

/-- The texts in a part of a document, in order. -/
def Xml.Node.texts : Xml.Node → List (List Char)
  | .text content => [content]
  | .element _ _ children => Xml.textsOfAll children
  | .aside => []

/-- The texts in some parts of a document. -/
def Xml.textsOfAll : List Xml.Node → List (List Char)
  | [] => []
  | node :: nodes => node.texts ++ Xml.textsOfAll nodes

end

/-- The words of a part of a document. -/
def Xml.Node.words (node : Xml.Node) : String :=
  Text.collapse (" ".intercalate (node.texts.map String.ofList))

namespace MemberDoc

/-- Takes an element inside a member; one without words says nothing. -/
def addElement (doc : MemberDoc) : Xml.Node → MemberDoc
  | .element name attributes children =>
    let words := (Xml.Node.element name attributes children).words
    if words.isEmpty then doc
    else if name == "summary" then { doc with summary := some words }
    else if name == "returns" then { doc with returns := some words }
    else if name == "param" then
      match attributes.lookup "name" with
      | some parameter =>
        { doc with parameters := Ordered.insert parameter words doc.parameters }
      | none => doc
    else doc
  | _ => doc

/-- Whether a member has no text of its own. -/
def isBare (doc : MemberDoc) : Bool :=
  doc.summary.isNone && doc.parameters.isEmpty && doc.returns.isNone

/-- The documentation in an element for a member. -/
def ofElement (node : Xml.Node) (children : List Xml.Node) : MemberDoc :=
  let doc := children.foldl addElement {}
  if doc.isBare && !node.words.isEmpty then { doc with summary := some node.words } else doc

end MemberDoc

mutual

/-- The members in a part of a document, in order. -/
def Xml.Node.members : Xml.Node → List (String × MemberDoc)
  | .element name attributes children =>
    let inner := Xml.membersOfAll children
    if name == "member" then
      match attributes.lookup "name" with
      | some signature =>
        (signature, MemberDoc.ofElement (.element name attributes children) children) :: inner
      | none => inner
    else inner
  | _ => []

/-- The members in some parts of a document. -/
def Xml.membersOfAll : List Xml.Node → List (String × MemberDoc)
  | [] => []
  | node :: nodes => node.members ++ Xml.membersOfAll nodes

end

/-- Reads documentation; of members with the same signature the last one counts. -/
def DocIndex.ofXml? (text : String) : Option DocIndex :=
  (Xml.parse? text).map fun root => ⟨Ordered.ofList root.members⟩

end ClientGen

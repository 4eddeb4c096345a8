import ClientGen.Discovery.Actions
import ClientGen.Documentation.Read
import ClientGen.Proofs.Collections.Ordered
import ClientGen.Proofs.Text.Blank

/-!
# The texts of documentation

Every text that documentation gives for a member was collapsed when it was read, and was kept only
if it had words. So no text is empty, and the only blanks in it are spaces, whatever stands in the
document. An action takes its texts from the documentation of its method, the texts of its parameters
by their names.
-/

namespace ClientGen

/-- Whether a text has words and no blanks but spaces. -/
def IsCollapsed (text : String) : Prop :=
  text ≠ "" ∧ ∀ c ∈ text.toList, Text.isBlank c = true → c = ' '

namespace MemberDoc

/-- The texts in the documentation of a member. -/
def texts (doc : MemberDoc) : List String :=
  doc.summary.toList ++ doc.parameters.map (·.2) ++ doc.returns.toList

variable {doc : MemberDoc} {words : String}

/-- Whether all texts in the documentation of a member are collapsed. -/
def AllCollapsed (doc : MemberDoc) : Prop :=
  ∀ words ∈ doc.texts, IsCollapsed words

theorem allCollapsed_iff : doc.AllCollapsed ↔
    (∀ words ∈ doc.summary, IsCollapsed words) ∧
      (∀ entry ∈ doc.parameters, IsCollapsed entry.2) ∧
      ∀ words ∈ doc.returns, IsCollapsed words := by
  simp only [AllCollapsed, texts, List.forall_mem_append, List.forall_mem_map, Option.mem_toList,
    Option.mem_def, and_assoc]

theorem isCollapsed_words {node : Xml.Node} (given : node.words.isEmpty = false) :
    IsCollapsed node.words :=
  ⟨fun none => by simp [none] at given, fun _ => Text.eq_space_of_mem_collapse⟩

/-! ### Elements of a member -/

theorem AllCollapsed.withSummary (before : doc.AllCollapsed) (given : IsCollapsed words) :
    { doc with summary := some words }.AllCollapsed := by
  rw [allCollapsed_iff] at before ⊢
  exact ⟨by simpa using given, before.2⟩

theorem AllCollapsed.withReturns (before : doc.AllCollapsed) (given : IsCollapsed words) :
    { doc with returns := some words }.AllCollapsed := by
  rw [allCollapsed_iff] at before ⊢
  exact ⟨before.1, before.2.1, by simpa using given⟩

theorem AllCollapsed.withParameter {name : String} (before : doc.AllCollapsed)
    (given : IsCollapsed words) :
    { doc with parameters := Ordered.insert name words doc.parameters }.AllCollapsed := by
  rw [allCollapsed_iff] at before ⊢
  refine ⟨before.1, ?_, before.2.2⟩
  intro entry stored
  rcases Ordered.mem_insert stored with rfl | old
  · exact given
  · exact before.2.1 entry old

theorem allCollapsed_addElement {node : Xml.Node} (before : doc.AllCollapsed) :
    (doc.addElement node).AllCollapsed := by
  cases node with
  | text content => exact before
  | aside => exact before
  | element name attributes children =>
    simp only [addElement]
    split
    · exact before
    next given =>
    have words := isCollapsed_words (Bool.eq_false_iff.mpr given)
    split
    · exact before.withSummary words
    split
    · exact before.withReturns words
    split
    · split
      · exact before.withParameter words
      · exact before
    · exact before

theorem allCollapsed_ofElement {node : Xml.Node} {children : List Xml.Node} :
    (ofElement node children).AllCollapsed := by
  have collected : (children.foldl addElement {}).AllCollapsed :=
    List.foldlRecOn children addElement (by simp [AllCollapsed, texts]) fun _ before _ _ =>
      allCollapsed_addElement before
  simp only [ofElement]
  split
  · next bare =>
    rw [Bool.and_eq_true, Bool.not_eq_true'] at bare
    exact collected.withSummary (isCollapsed_words bare.2)
  · exact collected

end MemberDoc

mutual

theorem Xml.Node.allCollapsed_of_mem_members {signature : String} {doc : MemberDoc} :
    (node : Xml.Node) → (signature, doc) ∈ node.members → doc.AllCollapsed
  | .element name attributes children, among => by
    rw [Xml.Node.members] at among
    have inner : (signature, doc) ∈ Xml.membersOfAll children → doc.AllCollapsed :=
      Xml.allCollapsed_of_mem_membersOfAll children
    split at among
    · split at among
      · rcases List.mem_cons.mp among with isHere | inside
        · rw [(Prod.mk.inj isHere).2]
          exact MemberDoc.allCollapsed_ofElement
        · exact inner inside
      · exact inner among
    · exact inner among
  | .text content, among => by simp [Xml.Node.members] at among
  | .aside, among => by simp [Xml.Node.members] at among

theorem Xml.allCollapsed_of_mem_membersOfAll {signature : String} {doc : MemberDoc} :
    (nodes : List Xml.Node) → (signature, doc) ∈ Xml.membersOfAll nodes → doc.AllCollapsed
  | [], among => by simp [Xml.membersOfAll] at among
  | node :: nodes, among => by
    rw [Xml.membersOfAll, List.mem_append] at among
    rcases among with first | later
    · exact node.allCollapsed_of_mem_members first
    · exact Xml.allCollapsed_of_mem_membersOfAll nodes later

end

/-- All texts that are found in documentation that was read are collapsed. -/
theorem DocIndex.allCollapsed_of_find? {text signature : String} {index : DocIndex}
    {doc : MemberDoc} (read : DocIndex.ofXml? text = some index)
    (found : index.find? signature = some doc) : doc.AllCollapsed := by
  rw [DocIndex.ofXml?, Option.map_eq_some_iff] at read
  obtain ⟨root, -, rfl⟩ := read
  exact root.allCollapsed_of_mem_members (Ordered.mem_of_mem_ofList (Ordered.mem_of_find? found))

/-! ### The texts of an action -/

/-- Whether the texts of an action are those in the documentation of a member. -/
structure Action.DocumentedBy (action : Action ClassId) (doc : MemberDoc) : Prop where
  summary : action.documentation = doc.summary
  parameters : ∀ parameter ∈ action.parameters,
    parameter.documentation = Ordered.find? parameter.name doc.parameters
  returns : ∀ payload ∈ action.payload, payload.documentation = doc.returns

namespace Server

variable {server : Server} {discovery later : Discovery} {version : Option String}
  {bindings : List (String × Bool)} {doc : MemberDoc} {context : ControllerContext}
  {declaring : Declaration} {method : Method} {action : Action ClassId}

theorem documentation_readParameters (parameters : List Parameter) :
    ∀ parameter ∈ (server.readParameters version bindings (some doc) parameters discovery).1,
      parameter.documentation = Ordered.find? parameter.name doc.parameters := by
  induction parameters generalizing discovery with
  | nil => exact fun _ among => nomatch among
  | cons parameter parameters ih =>
    rw [readParameters, List.forall_mem_cons]
    exact ⟨rfl, ih⟩

theorem documentation_readPayload :
    ∀ payload ∈ (server.readPayload version (some doc) method discovery).1,
      payload.documentation = doc.returns := by
  intro payload given
  rw [readPayload] at given
  split at given
  · exact nomatch given
  · rw [← Option.some.inj given]
    rfl

theorem documentedBy_of_readAction?
    (read : server.readAction? context declaring method discovery = some (action, later))
    (found : server.docs.methodDoc? declaring method = some doc) : action.DocumentedBy doc := by
  simp only [readAction?, found, Option.bind_eq_bind, Option.bind_eq_some_iff, Option.some.injEq,
    Prod.mk.injEq] at read
  rcases read with ⟨⟨verb, fragment⟩, -, rfl, -⟩
  exact ⟨rfl, documentation_readParameters method.parameters, documentation_readPayload⟩

end Server

end ClientGen

import ClientGen.Proofs.Discovery.Binding
import ClientGen.Proofs.Documentation.Texts
import ClientGen.Proofs.TypeScript.Modules
import Mathlib.Logic.Function.Iterate

/-!
# Comments

A comment goes from its mark to the first end of a comment behind it, and the writer puts one end
behind everything that it documents. Spaces and line breaks stand around every text, so an end of a
comment in front of the writer's own stands inside one of the texts: what the writer puts around them
never makes one, and nothing in a text is taken apart either. The texts hold no line breaks, since
they were collapsed when they were read.
-/

namespace ClientGen.TypeScript

/-! ### Reading comments -/

/-- What stands behind the first end of a comment. -/
def behindEnd? : List Char → Option (List Char)
  | '*' :: '/' :: cs => some cs
  | _ :: cs => behindEnd? cs
  | [] => none

/-- What stands behind the comment that some characters begin with, apart from spaces. -/
def behindComment? (cs : List Char) : Option (List Char) :=
  (Text.dropBeginning? ['/', '*', '*'] (cs.dropWhile (· == ' '))).bind behindEnd?

/-- Whether no comment ends in some characters. -/
def EndFree (cs : List Char) : Prop :=
  ¬ ['*', '/'] <:+: cs

/-- The characters that end a line. -/
def isLineBreak (c : Char) : Bool :=
  c == '\n' || c == '\r' || c == '\u2028' || c == '\u2029'

/-- Whether a text is on one line. -/
def IsOneLine (text : String) : Prop :=
  ∀ c ∈ text.toList, isLineBreak c = false

instance (text : String) : Decidable (IsOneLine text) :=
  List.decidableBAll _ text.toList

/-- Whether some lines, so many levels further in, are a comment up to the end of the last one. -/
def IsCommentBefore (behind : List Char) (level : Nat) (lines : List Code) : Prop :=
  behindComment? ((Code.spellLines (lines.map Code.indent^[level])).toList ++ behind) =
    some ('\n' :: behind)

variable {c : Char} {cs front rest behind : List Char} {text : String} {line : Code}
  {lines : List Code} {level : Nat}

/-! ### Ends of comments -/

theorem endFree_cons :
    EndFree (c :: cs) ↔ ¬(c = '*' ∧ cs.head? = some '/') ∧ EndFree cs := by
  have atFront : ['*', '/'] <+: c :: cs ↔ c = '*' ∧ cs.head? = some '/' := by
    rw [List.cons_prefix_cons, eq_comm (a := '*')]
    cases cs with
    | nil => simp
    | cons d cs => simp [eq_comm (a := '/')]
  rw [EndFree, List.infix_cons_iff, atFront, not_or, EndFree]

theorem endFree_nil : EndFree [] := by
  simp [EndFree]

instance decidableEndFree : (cs : List Char) → Decidable (EndFree cs)
  | [] => .isTrue endFree_nil
  | _ :: cs =>
    have := decidableEndFree cs
    decidable_of_iff _ endFree_cons.symm

theorem behindEnd?_cons (other : ¬(c = '*' ∧ cs.head? = some '/')) :
    behindEnd? (c :: cs) = behindEnd? cs := by
  rw [behindEnd?.eq_2]
  rintro rest rfl rfl
  exact other ⟨rfl, rfl⟩

/-- The first end of a comment is the one behind some characters exactly if there is none in them. -/
theorem behindEnd?_append_iff (behind : List Char) :
    behindEnd? (cs ++ '*' :: '/' :: behind) = some behind ↔ EndFree cs := by
  induction cs with
  | nil => simp [behindEnd?, endFree_nil]
  | cons c cs ih =>
    rw [endFree_cons]
    by_cases ends : c = '*' ∧ cs.head? = some '/'
    · obtain ⟨rfl, isSlash⟩ := ends
      obtain ⟨inside, rfl⟩ := List.head?_eq_some_iff.mp isSlash
      have longer : (inside ++ '*' :: '/' :: behind).length ≠ behind.length := by
        rw [List.length_append, List.length_cons, List.length_cons]
        omega
      simp only [List.cons_append, behindEnd?, Option.some.injEq, List.head?_cons, and_self,
        not_true_eq_false, false_and, iff_false]
      exact fun same => longer (congrArg List.length same)
    · have atFront : ¬(c = '*' ∧ (cs ++ '*' :: '/' :: behind).head? = some '/') := by
        rintro ⟨rfl, isSlash⟩
        refine ends ⟨rfl, ?_⟩
        cases cs with
        | nil => simp at isSlash
        | cons d cs => exact isSlash
      rw [List.cons_append, behindEnd?_cons atFront, ih]
      exact (and_iff_right ends).symm

/-- Nothing that stands around another character makes an end of a comment. -/
theorem endFree_append_cons (notStar : c ≠ '*') (notSlash : c ≠ '/') :
    EndFree (front ++ c :: rest) ↔ EndFree front ∧ EndFree rest := by
  induction front with
  | nil => simp [endFree_cons, notStar, endFree_nil]
  | cons d front ih =>
    have sameHead : (front ++ c :: rest).head? = some '/' ↔ front.head? = some '/' := by
      cases front with
      | nil => simp [notSlash]
      | cons e front => exact Iff.rfl
    rw [List.cons_append, endFree_cons, endFree_cons, sameHead, ih, and_assoc]

theorem endFree_replicate_append (count : Nat) :
    EndFree (List.replicate count ' ' ++ cs) ↔ EndFree cs := by
  induction count with
  | zero => rfl
  | succ count ih =>
    rw [List.replicate_succ, List.cons_append, endFree_cons, ih]
    simp

theorem endFree_replicate (count : Nat) : EndFree (List.replicate count ' ') := by
  rw [← List.append_nil (List.replicate count ' '), endFree_replicate_append]
  exact endFree_nil

theorem behindComment?_append (count : Nat) :
    behindComment? (List.replicate count ' ' ++ '/' :: '*' :: '*' :: cs) = behindEnd? cs := by
  rw [behindComment?, List.dropWhile_append_of_pos (by simp)]
  rfl

/-! ### Lines -/

theorem spellLines_cons :
    (Code.spellLines (line :: lines)).toList =
      line.spell.toList ++ '\n' :: (Code.spellLines lines).toList := by
  simp [Code.spellLines, String.toList_join]

theorem spell_indent_iterate (level : Nat) (code : Code) :
    (Code.spell (Code.indent^[level] code)).toList =
      List.replicate (4 * level) ' ' ++ code.spell.toList := by
  induction level with
  | zero => rfl
  | succ level ih =>
    rw [Function.iterate_succ_apply', Code.indent, Code.spell_cons, String.toList_append, ih,
      ← List.append_assoc, Nat.mul_succ, Nat.add_comm, List.replicate_add]
    rfl

/-- No comment ends in some lines exactly if none ends in one of them. -/
theorem endFree_spellLines :
    EndFree (Code.spellLines (lines.map Code.indent^[level])).toList ↔
      ∀ line ∈ lines, EndFree line.spell.toList := by
  induction lines with
  | nil => simp [Code.spellLines, endFree_nil]
  | cons line lines ih =>
    rw [List.map_cons, spellLines_cons, endFree_append_cons (by decide) (by decide), ih,
      spell_indent_iterate, endFree_replicate_append, List.forall_mem_cons]

theorem isOneLine_append {other : String} :
    IsOneLine (text ++ other) ↔ IsOneLine text ∧ IsOneLine other := by
  simp only [IsOneLine, String.toList_append, List.forall_mem_append]

/-- What was collapsed is on one line. -/
theorem isOneLine_of_isCollapsed (collapsed : IsCollapsed text) : IsOneLine text := by
  intro c among
  rw [Bool.eq_false_iff]
  intro breaks
  have blank : Text.isBlank c = true := by
    simp only [isLineBreak, Bool.or_eq_true, beq_iff_eq, or_assoc] at breaks
    rcases breaks with rfl | rfl | rfl | rfl <;> decide
  rw [collapsed.2 c among blank] at breaks
  exact absurd breaks (by decide)

/-! ### Comments for what follows them -/

theorem comment_of_given (given : text ≠ "") :
    Code.comment (some text) = [[.text "/** ", .text text, .text " */"]] := by
  simp [Code.comment, given]

theorem isCommentBefore_comment (given : text ≠ "") :
    IsCommentBefore behind level (Code.comment (some text)) ↔ EndFree text.toList := by
  have written : (Code.spell ["/** ", text, " */"]).toList =
      '/' :: '*' :: '*' :: ' ' :: (text.toList ++ [' ', '*', '/']) := by
    simp [Code.spell, Fragment.spell]
  have inside : EndFree (' ' :: (text.toList ++ [' '])) ↔ EndFree text.toList := by
    rw [endFree_cons, endFree_append_cons (by decide) (by decide)]
    simp [endFree_nil]
  rw [IsCommentBefore, comment_of_given given, List.map_singleton, spellLines_cons,
    spell_indent_iterate, written, List.append_assoc, List.append_assoc, List.cons_append,
    List.cons_append, List.cons_append, behindComment?_append, ← inside,
    ← behindEnd?_append_iff ('\n' :: behind)]
  simp [Code.spellLines]

/-! ### Comments of actions -/

open ActionWriter

theorem comment_of_lines {action : Action ClassId} (given : comment action ≠ []) :
    comment action =
      [.text "/**"] :: ((commentLines action).map (.text " * " :: ·) ++ [[.text " */"]]) := by
  rw [comment] at given ⊢
  split at given
  · exact absurd rfl given
  · rfl

theorem endFree_commentLine : EndFree (Code.spell (.text " * " :: line)).toList ↔
    EndFree line.spell.toList := by
  rw [Code.spell_cons, String.toList_append]
  simp [Fragment.spell, endFree_cons]

/-- The comment of an action is one comment exactly if none ends in one of its lines. -/
theorem isCommentBefore_lines {action : Action ClassId} (given : comment action ≠ []) :
    IsCommentBefore behind level (comment action) ↔
      ∀ line ∈ commentLines action, EndFree line.spell.toList := by
  have marked : EndFree (Code.spellLines
        (((commentLines action).map (.text " * " :: ·)).map Code.indent^[level])).toList ↔
      ∀ line ∈ commentLines action, EndFree line.spell.toList := by
    simp only [endFree_spellLines, List.forall_mem_map, endFree_commentLine]
  have inside : EndFree ('\n' :: ((Code.spellLines
        (((commentLines action).map (.text " * " :: ·)).map Code.indent^[level])).toList ++
          (List.replicate (4 * level) ' ' ++ [' ']))) ↔
      ∀ line ∈ commentLines action, EndFree line.spell.toList := by
    rw [endFree_cons, ← List.replicate_succ', List.replicate_succ,
      endFree_append_cons (by decide) (by decide), marked]
    simp [endFree_replicate]
  have opening : (Code.spell [.text "/**"]).toList = ['/', '*', '*'] := by
    simp [Code.spell, Fragment.spell]
  have closing : (Code.spell [.text " */"]).toList = [' ', '*', '/'] := by
    simp [Code.spell, Fragment.spell]
  rw [IsCommentBefore, comment_of_lines given, List.map_cons, List.map_append, List.map_singleton,
    spellLines_cons, spellLines_append, String.toList_append, spellLines_cons,
    spell_indent_iterate, spell_indent_iterate, opening, closing, List.append_assoc,
    List.append_assoc, List.cons_append, List.cons_append, List.cons_append, List.nil_append,
    behindComment?_append, ← inside, ← behindEnd?_append_iff ('\n' :: behind)]
  simp [Code.spellLines]

/-- What is asked of every line of the comment of an action is asked of its texts. -/
theorem forall_commentLines {good : Code → Prop} {action : Action ClassId} :
    (∀ line ∈ commentLines action, good line) ↔
      (∀ summary ∈ action.documentation, good [.text summary]) ∧
      (∀ parameter ∈ action.parameters, ∀ words ∈ parameter.documentation,
        good [.text "@param ", .text parameter.name, .text " ", .text words]) ∧
      ∀ payload ∈ action.payload, ∀ words ∈ payload.documentation,
        good [.text "@returns ", .text words] := by
  simp only [commentLines, Code.stack, Code.given, List.flatten_cons, List.flatten_nil,
    List.append_nil, List.forall_mem_append, List.forall_mem_map, List.forall_mem_flatMap,
    Option.mem_toList]
  refine and_congr_right fun _ => and_congr_right fun _ => ?_
  cases action.payload <;> simp

variable {action : Action ClassId} {doc : MemberDoc}

/-- The comment of an action is one comment exactly if none ends in its texts, nor in the names of
parameters in front of theirs. -/
theorem isCommentBefore_action (documented : action.DocumentedBy doc)
    (given : comment action ≠ []) :
    IsCommentBefore behind level (comment action) ↔
      (∀ summary ∈ doc.summary, EndFree summary.toList) ∧
      (∀ parameter ∈ action.parameters,
        ∀ words ∈ Ordered.find? parameter.name doc.parameters,
          EndFree parameter.name.toList ∧ EndFree words.toList) ∧
      (action.payload.isSome → ∀ words ∈ doc.returns, EndFree words.toList) := by
  have atParameter (name words : String) :
      EndFree (Code.spell [.text "@param ", .text name, .text " ", .text words]).toList ↔
        EndFree name.toList ∧ EndFree words.toList := by
    rw [← endFree_append_cons (c := ' ') (by decide) (by decide)]
    simp [Code.spell, Fragment.spell, endFree_cons]
  have atReturns (words : String) :
      EndFree (Code.spell [.text "@returns ", .text words]).toList ↔ EndFree words.toList := by
    simp [Code.spell, Fragment.spell, endFree_cons]
  rw [isCommentBefore_lines given, forall_commentLines, documented.summary]
  refine and_congr (by simp [Code.spell, Fragment.spell]) (and_congr ?_ ?_)
  · refine forall₂_congr fun parameter among => ?_
    simp only [documented.parameters parameter among, atParameter]
  · cases given : action.payload with
    | none => simp
    | some payload =>
      simp only [Option.mem_some_iff, forall_eq', Option.isSome_some, forall_true_left, atReturns,
        documented.returns payload given]

theorem isOneLine_comment (collapsed : doc.AllCollapsed) :
    ∀ line ∈ Code.comment doc.summary, IsOneLine line.spell := by
  cases given : doc.summary with
  | none => simp [Code.comment]
  | some summary =>
    have isText : IsCollapsed summary := (MemberDoc.allCollapsed_iff.mp collapsed).1 summary given
    have around : IsOneLine "/** " ∧ IsOneLine " */" := by decide
    rw [comment_of_given isText.1]
    simpa [Code.spell, Fragment.spell, isOneLine_append, around] using
      isOneLine_of_isCollapsed isText

theorem isOneLine_lines (documented : action.DocumentedBy doc) (collapsed : doc.AllCollapsed)
    (names : ∀ parameter ∈ action.parameters, IsOneLine parameter.name) :
    ∀ line ∈ comment action, IsOneLine line.spell := by
  by_cases none : comment action = []
  · simp [none]
  obtain ⟨ofSummary, ofParameters, ofReturns⟩ := MemberDoc.allCollapsed_iff.mp collapsed
  have around : IsOneLine "/**" ∧ IsOneLine " * " ∧ IsOneLine " */" ∧ IsOneLine "@param " ∧
      IsOneLine " " ∧ IsOneLine "@returns " := by decide
  have lines : ∀ line ∈ commentLines action, IsOneLine line.spell := by
    rw [forall_commentLines, documented.summary]
    refine ⟨?_, ?_, ?_⟩
    · intro summary given
      simpa [Code.spell, Fragment.spell] using isOneLine_of_isCollapsed (ofSummary summary given)
    · intro parameter among words given
      rw [documented.parameters parameter among] at given
      have oneLine := isOneLine_of_isCollapsed (ofParameters _ (Ordered.mem_of_find? given))
      simp [Code.spell, Fragment.spell, isOneLine_append, around, names parameter among, oneLine]
    · intro payload isPayload words given
      rw [documented.returns payload isPayload] at given
      have oneLine := isOneLine_of_isCollapsed (ofReturns words given)
      simp [Code.spell, Fragment.spell, isOneLine_append, around, oneLine]
  rw [comment_of_lines none, List.forall_mem_cons, List.forall_mem_append, List.forall_mem_map]
  refine ⟨by simpa [Code.spell, Fragment.spell] using around.1, ?_,
    by simpa [Code.spell, Fragment.spell] using around.2.2.1⟩
  intro line among
  rw [Code.spell_cons, isOneLine_append]
  exact ⟨around.2.1, lines line among⟩

/-- Documentation that was read stands on one line for each text, and is one comment exactly if no
comment ends in what is written of it; a text in which one ends breaks the comment open, wherever it
comes from. Of an action the texts for its parameters are written behind their names, and the text
for what is returned is written if anything is. -/
theorem comments_end_iff {text signature : String} {index : DocIndex} {doc : MemberDoc}
    (read : DocIndex.ofXml? text = some index) (found : index.find? signature = some doc) :
    (∀ words ∈ doc.texts, words ≠ "" ∧ IsOneLine words) ∧
    (∀ line ∈ Code.comment doc.summary, IsOneLine line.spell) ∧
    (∀ summary ∈ doc.summary, ∀ behind level,
      IsCommentBefore behind level (Code.comment doc.summary) ↔ EndFree summary.toList) ∧
    ∀ (server : Server) (context : ControllerContext) (declaring : Declaration) (method : Method)
      (discovery later : Discovery) (action : Action ClassId),
      server.docs.methodDoc? declaring method = some doc →
      server.readAction? context declaring method discovery = some (action, later) →
      ((∀ parameter ∈ action.parameters, IsOneLine parameter.name) →
        ∀ line ∈ comment action, IsOneLine line.spell) ∧
      (comment action ≠ [] → ∀ behind level,
        (IsCommentBefore behind level (comment action) ↔
          (∀ summary ∈ doc.summary, EndFree summary.toList) ∧
          (∀ parameter ∈ action.parameters,
            ∀ words ∈ Ordered.find? parameter.name doc.parameters,
              EndFree parameter.name.toList ∧ EndFree words.toList) ∧
          (action.payload.isSome → ∀ words ∈ doc.returns, EndFree words.toList))) := by
  have collapsed : doc.AllCollapsed := DocIndex.allCollapsed_of_find? read found
  refine ⟨fun words among => ⟨(collapsed words among).1,
    isOneLine_of_isCollapsed (collapsed words among)⟩, isOneLine_comment collapsed, ?_, ?_⟩
  · intro summary given behind level
    rw [given]
    exact isCommentBefore_comment ((MemberDoc.allCollapsed_iff.mp collapsed).1 summary given).1
  · intro server context declaring method discovery later action isDoc isAction
    have documented := Server.documentedBy_of_readAction? isAction isDoc
    exact ⟨isOneLine_lines documented collapsed,
      fun given behind level => isCommentBefore_action documented given⟩

/-- Documentation of a class, with an end of a comment. -/
def openXml : String :=
  "<doc><member name=\"T:Shop.Word\"><summary>a */ b</summary></member></doc>"

/-- A comment ends where the summary says so, and the rest of the summary is left as code. -/
theorem comment_ends_in_summary :
    (DocIndex.ofXml? openXml).bind (·.typeSummary? "Shop.Word") = some "a */ b" ∧
      behindComment? (Code.spellLines (Code.comment (some "a */ b"))).toList =
        some " b */\n".toList ∧
      ¬IsCommentBefore [] 0 (Code.comment (some "a */ b")) := by
  refine ⟨by decide +kernel, by decide +kernel, ?_⟩
  rw [isCommentBefore_comment (by decide)]
  decide

/-- Documentation of a method, with stars and slashes that end no comment. -/
def wordsXml : String :=
  "<doc><member name=\"M:Words.Get(System.Int32)\"><summary>a\n<c>word</c> *</summary>" ++
    "<param name=\"id\">/ * /</param></member></doc>"

/-- The documentation of the method. -/
def getWordDoc : MemberDoc where
  summary := some "a word *"
  parameters := [("id", "/ * /")]

/-- The method. -/
def getWord : Method where
  name := "Get"
  parameters := [⟨"id", .named "System.Int32" [], false, false, []⟩]
  attributes := [.httpGet (some "")]

/-- A server whose method is documented. -/
def wordsServer (index : DocIndex) : Server where
  catalog := .empty
  convention := .mvc
  docs := index

theorem methodDoc?_getWord {index : DocIndex}
    (found : index.find? "M:Words.Get(System.Int32)" = some getWordDoc) :
    index.methodDoc? { name := "Words" } getWord = some getWordDoc := by
  have signature : DocIndex.methodSignature { name := "Words" } getWord =
      "M:Words.Get(System.Int32)" := by decide +kernel
  rw [DocIndex.methodDoc?, signature, found]

theorem comments_end_of_getWord : ∃ index action later,
    DocIndex.ofXml? wordsXml = some index ∧
    index.find? "M:Words.Get(System.Int32)" = some getWordDoc ∧
    IsCommentBefore [] 0 (Code.comment getWordDoc.summary) ∧
    (wordsServer index).readAction? ⟨"Words", none, none⟩ { name := "Words" } getWord {} =
      some (action, later) ∧
    comment action ≠ [] ∧ IsCommentBefore [] 1 (comment action) := by
  have found : (DocIndex.ofXml? wordsXml).bind (·.find? "M:Words.Get(System.Int32)") =
      some getWordDoc := by decide +kernel
  obtain ⟨index, read, found⟩ := Option.bind_eq_some_iff.mp found
  obtain ⟨-, -, ofSummary, ofAction⟩ := comments_end_iff read found
  have isRead : ((wordsServer index).readAction? ⟨"Words", none, none⟩ { name := "Words" } getWord
      {}).isSome = true := by
    rw [Server.isSome_readAction?]
    decide
  obtain ⟨⟨action, later⟩, isAction⟩ := Option.isSome_iff_exists.mp isRead
  have isDoc := methodDoc?_getWord found
  have summary := (Server.documentedBy_of_readAction? isAction isDoc).summary
  have given : comment action ≠ [] := by
    simp [comment, commentLines, Code.stack, Code.given, summary, getWordDoc]
  refine ⟨index, action, later, read, found, (ofSummary _ rfl [] 0).mpr (by decide), isAction,
    given, ?_⟩
  refine (((ofAction _ _ _ _ _ _ _ isDoc isAction).2 given) [] 1).mpr ⟨?_, ?_, ?_⟩
  · rintro _ ⟨⟩
    decide
  · intro parameter among words isText
    have isName : parameter.name ∈ action.parameters.map (·.name) := List.mem_map_of_mem among
    rw [Server.names_of_readAction? isAction] at isName
    have isId : parameter.name = "id" := List.mem_singleton.mp isName
    rw [isId] at isText ⊢
    obtain rfl := Option.some.inj isText
    decide
  · intro _ words isText
    cases isText

end ClientGen.TypeScript

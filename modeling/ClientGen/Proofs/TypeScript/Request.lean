import ClientGen.Proofs.Discovery.Binding
import ClientGen.Proofs.Text.Case
import ClientGen.Proofs.TypeScript.Client
import Mathlib.Data.List.Nodup

/-!
# What a request is made of

The function of an action takes the parameters of the action and refers to them in three places: in
the path, where they replace placeholders, in the query and in the body. A placeholder is replaced
by the parameter in the path that has its name, where only the letters A to Z are the same in upper
and lower case. When parameters were bound to the path, so were all other letters. A placeholder
without such a parameter is taken for the name of one.
-/

namespace ClientGen.TypeScript

/-! ### References in code -/

/-- Whether this is the value of a parameter. -/
def Fragment.isReference : Fragment → Bool
  | .parameter _ _ => true
  | _ => false

namespace Code

/-- The values of parameters in some code. -/
def references (code : Code) : Code :=
  code.filter Fragment.isReference

variable {code other : Code} {α : Type}

@[simp]
theorem references_nil : references [] = [] := rfl

@[simp]
theorem references_text {content : String} : references (.text content :: code) = code.references :=
  rfl

@[simp]
theorem references_type {type : ClientType} : references (.type type :: code) = code.references :=
  rfl

@[simp]
theorem references_parameter {passing : Passing} {name : String} :
    references (.parameter passing name :: code) = .parameter passing name :: code.references :=
  rfl

@[simp]
theorem references_append : references (code ++ other) = code.references ++ other.references :=
  List.filter_append _ _

@[simp]
theorem references_flatMap {items : List α} {part : α → Code} :
    references (items.flatMap part) = items.flatMap fun item => (part item).references :=
  List.filter_flatMap

@[simp]
theorem references_row {parts : List Code} : (row parts).references = parts.flatMap references :=
  List.filter_flatten

@[simp]
theorem references_indent : code.indent.references = code.references :=
  rfl

theorem references_join {separator : String} {parts : List Code} :
    (join separator parts).references = parts.flatMap references := by
  induction parts with
  | nil => rfl
  | cons part parts ih =>
    cases parts with
    | nil => simp [join]
    | cons next parts => simp [join, ih]

end Code

open Code

namespace ActionWriter

variable {writer : ActionWriter} {action : Action ClassId}
  {parameter : ActionParameter ClassId} {placeholder : Route.Placeholder}

/-! ### The path -/

/-- A text with the values of parameters instead of its placeholders. -/
def interpolated (writer : ActionWriter) (action : Action ClassId) (cs : List Char) : Code :=
  (Text.pieces Route.plain? cs).flatMap fun
    | .char c => [String.singleton c]
    | .found placeholder => ["$\x7b", writer.value (target action placeholder.name), "\x7d"]

theorem path_of_bound (bound : ∃ parameter ∈ action.parameters, parameter.position = .path) :
    writer.path action =
      Code.row [["\x60"], writer.interpolated action action.route.toList, ["\x60"]] := by
  have any : action.parameters.any (·.position = .path) = true := by
    rcases bound with ⟨parameter, among, inPath⟩
    exact List.any_eq_true.mpr ⟨parameter, among, decide_eq_true inPath⟩
  rw [path, if_pos any]
  rfl

theorem interpolated_append_plain_append (proper : placeholder.IsProper)
    (before behind : List Char) :
    writer.interpolated action (before ++ (placeholder.plain ++ behind)) =
      Code.row [writer.interpolated action before,
        ["$\x7b", writer.value (target action placeholder.name), "\x7d"],
        writer.interpolated action behind] := by
  rw [interpolated, Route.pieces_append_plain_append proper, List.flatMap_append,
    List.flatMap_cons]
  simp [Code.row, interpolated]

/-! ### The parameter that replaces a placeholder -/

/-- Either the target is a parameter of the action, or there is none with the name of the
placeholder. -/
theorem target_cases (action : Action ClassId) (name : String) :
    (∃ parameter ∈ action.parameters, parameter.position = .path ∧
        target action name = parameter.name ∧
        Text.lowerAscii parameter.name = Text.lowerAscii name) ∨
      target action name = name ∧ ∀ parameter ∈ action.parameters, parameter.position = .path →
        Text.lowerAscii parameter.name ≠ Text.lowerAscii name := by
  unfold target
  split
  · next parameter found =>
    have alike := List.find?_some found
    rw [Bool.and_eq_true, beq_iff_eq, decide_eq_true_eq] at alike
    exact .inl ⟨parameter, List.mem_of_find?_eq_some found, alike.1, rfl, alike.2⟩
  · next missing =>
    refine .inr ⟨rfl, ?_⟩
    intro parameter among inPath same
    have unlike := List.find?_eq_none.mp missing parameter among
    simp [inPath, same] at unlike

/-- Parameters that are distinct in lower case are found by their names. -/
theorem target_eq (distinct : (action.parameters.map (Text.lower ·.name)).Nodup)
    (among : parameter ∈ action.parameters) (inPath : parameter.position = .path)
    {name : String} (same : Text.lower name = Text.lower parameter.name) :
    target action name =
      if Text.lowerAscii parameter.name = Text.lowerAscii name then parameter.name else name := by
  have only (other : ActionParameter ClassId) (isOther : other ∈ action.parameters)
      (alike : Text.lowerAscii other.name = Text.lowerAscii name) : other = parameter :=
    List.inj_on_of_nodup_map distinct isOther among
      ((Text.lower_eq_of_lowerAscii_eq alike).trans same)
  rcases target_cases action name with ⟨other, isOther, -, isTarget, alike⟩ | ⟨isTarget, none⟩
  · obtain rfl := only other isOther alike
    rw [isTarget, if_pos alike]
  · rw [isTarget, if_neg (none parameter among inPath)]

/-! ### References in a function -/

theorem references_interpolated (cs : List Char) :
    (writer.interpolated action cs).references =
      (Text.matches? (Text.pieces Route.plain? cs)).map fun placeholder =>
        writer.value (target action placeholder.name) := by
  rw [interpolated, references_flatMap]
  induction Text.pieces Route.plain? cs with
  | nil => rfl
  | cons piece pieces ih =>
    rw [List.flatMap_cons, ih]
    cases piece <;> rfl

theorem mem_references_path_iff {fragment : Fragment} :
    fragment ∈ (writer.path action).references ↔
      (∃ parameter ∈ action.parameters, parameter.position = .path) ∧
        ∃ placeholder ∈ Route.placeholders action.route,
          fragment = writer.value (target action placeholder.name) := by
  by_cases bound : ∃ parameter ∈ action.parameters, parameter.position = .path
  · have references : (writer.path action).references =
        (Route.placeholders action.route).map fun placeholder =>
          writer.value (target action placeholder.name) := by
      rw [path_of_bound bound, references_row]
      simp [references_interpolated, Route.placeholders]
    rw [references, List.mem_map]
    constructor
    · rintro ⟨placeholder, among, rfl⟩
      exact ⟨bound, placeholder, among, rfl⟩
    · rintro ⟨-, placeholder, among, rfl⟩
      exact ⟨placeholder, among, rfl⟩
  · have none : action.parameters.any (·.position = .path) = false := by
      simpa using bound
    simp [path, none, bound]

theorem mem_references_queryField_iff {fragment : Fragment} :
    fragment ∈ (writer.queryField parameter).references ↔
      fragment = writer.value parameter.name := by
  unfold queryField value
  dsimp only
  split <;> simp

theorem mem_references_query_iff {fragment : Fragment} :
    fragment ∈ (writer.query action).references ↔
      ∃ parameter ∈ action.parameters, parameter.position = .query ∧
        fragment = writer.value parameter.name := by
  have fields (parameters : List (ActionParameter ClassId)) :
      fragment ∈ parameters.flatMap (fun parameter => (writer.queryField parameter).references) ↔
        ∃ parameter ∈ parameters, fragment = writer.value parameter.name := by
    simp only [List.mem_flatMap, mem_references_queryField_iff]
  have sameFields : (writer.query action).references =
      (action.parameters.filter (·.position = .query)).flatMap fun parameter =>
        (writer.queryField parameter).references := by
    unfold query
    split
    · next none =>
      rw [none]
      rfl
    · simp [references_join, List.flatMap_map]
  rw [sameFields, fields]
  simp [List.mem_filter, and_assoc]

theorem references_body :
    (writer.body action).references =
      (action.parameters.find? (·.position = .body)).toList.map fun parameter =>
        writer.value parameter.name := by
  unfold body
  split
  · next none =>
    rw [none]
    rfl
  · next parameter found =>
    rw [found]
    dsimp only
    split <;> rfl

theorem references_declaration : (writer.declaration parameter).references = [] := by
  rw [declaration_eq]
  cases mark : parameter.isRequired <;> simp

theorem references_signature (writer : ActionWriter) (action : Action ClassId) :
    (writer.signature action).references = [] := by
  have declarations :
      ((writer.declared action).map writer.declaration).flatMap references = [] := by
    simp [List.flatMap_map, references_declaration]
  rw [signature_eq]
  split
  · rfl
  · rw [references_join, declarations]
  · simp only [references_row, references_join, declarations, List.flatMap_cons, references_text,
      references_nil, List.flatMap_nil, List.append_nil]

theorem references_rewrap (shape : Shape ClassId) : (writer.rewrap shape).references = [] := by
  rw [rewrap_eq]
  split <;> rfl

theorem references_request (writer : ActionWriter) (action : Action ClassId) :
    (writer.request action).references =
      (writer.path action ++ writer.query action ++ writer.body action).references := by
  rw [request_eq]
  cases action.payload with
  | none => simp
  | some payload => simp [references_rewrap]

theorem references_commentLines (action : Action ClassId) :
    (commentLines action).flatMap references = [] := by
  simp [commentLines, Code.stack, Code.given, List.flatMap_map, List.flatMap_assoc]

theorem references_comment (action : Action ClassId) :
    (comment action).flatMap references = [] := by
  have none := references_commentLines action
  unfold comment
  split
  · rfl
  · simpa [Code.stack, List.flatMap_map] using none

/-- A function refers to parameters in the path, the query and the body of its request, and nowhere
else. -/
theorem references_function (name : String) :
    (writer.function name action).flatMap references =
      (writer.path action ++ writer.query action ++ writer.body action).references := by
  have request := references_request writer action
  have comment := references_comment action
  have signature := references_signature writer action
  simp [function_eq, Code.stack, List.flatMap_map, comment, signature, request]

/-! ### Declared parameters -/

theorem mem_declared_iff : parameter ∈ writer.declared action ↔ parameter ∈ action.parameters := by
  refine ⟨mem_of_mem_declared, ?_⟩
  intro among
  unfold declared
  split
  · exact among
  · cases required : parameter.isRequired <;> simp [among, required]

/-- Whatever a function refers to is declared, placeholders without a parameter apart. -/
theorem declared_of_mem_references (binds : action.BindsPath) {reference : Fragment}
    (among : reference ∈
      (writer.path action ++ writer.query action ++ writer.body action).references) :
    (∃ parameter ∈ writer.declared action, reference = writer.value parameter.name) ∨
      ∃ placeholder ∈ Route.placeholders action.route,
        reference = writer.value placeholder.name ∧
          ∀ parameter ∈ action.parameters,
            Text.lowerAscii parameter.name ≠ Text.lowerAscii placeholder.name := by
  rw [references_append, references_append, List.mem_append, List.mem_append] at among
  rcases among with (inPath | inQuery) | inBody
  · rcases mem_references_path_iff.mp inPath with ⟨-, placeholder, isPlaceholder, rfl⟩
    rcases target_cases action placeholder.name with
      ⟨parameter, isParameter, -, isTarget, -⟩ | ⟨isTarget, none⟩
    · exact .inl ⟨parameter, mem_declared_iff.mpr isParameter, by rw [isTarget]⟩
    · refine .inr ⟨placeholder, isPlaceholder, by rw [isTarget], ?_⟩
      intro parameter isParameter same
      have isBound : parameter.position = .path := (binds parameter isParameter).mpr
        ⟨placeholder, isPlaceholder, (Text.lower_eq_of_lowerAscii_eq same).symm⟩
      exact none parameter isParameter isBound same
  · rcases mem_references_query_iff.mp inQuery with ⟨parameter, isParameter, -, rfl⟩
    exact .inl ⟨parameter, mem_declared_iff.mpr isParameter, rfl⟩
  · rw [references_body, List.mem_map] at inBody
    rcases inBody with ⟨parameter, found, rfl⟩
    rw [Option.mem_toList] at found
    exact .inl ⟨parameter, mem_declared_iff.mpr (List.mem_of_find?_eq_some found), rfl⟩

/-- A declared parameter is sent, unless it is not the first one for the body, or in the path and
spelled unlike its placeholder in other letters than A to Z. -/
theorem mem_references_of_declared
    (distinct : (action.parameters.map (Text.lower ·.name)).Nodup)
    (among : parameter ∈ writer.declared action) :
    writer.value parameter.name ∈
        (writer.path action ++ writer.query action ++ writer.body action).references ∨
      (parameter.position = .body ∧
        action.parameters.find? (·.position = .body) ≠ some parameter) ∨
      parameter.position = .path ∧ ∀ placeholder ∈ Route.placeholders action.route,
        Text.lowerAscii parameter.name ≠ Text.lowerAscii placeholder.name := by
  rw [references_append, references_append, List.mem_append, List.mem_append]
  have isParameter := mem_declared_iff.mp among
  cases position : parameter.position with
  | path =>
    by_cases found : ∃ placeholder ∈ Route.placeholders action.route,
        Text.lowerAscii parameter.name = Text.lowerAscii placeholder.name
    · rcases found with ⟨placeholder, isPlaceholder, same⟩
      have isTarget := target_eq distinct isParameter position
        (Text.lower_eq_of_lowerAscii_eq same).symm
      rw [if_pos same] at isTarget
      exact .inl (.inl (.inl (mem_references_path_iff.mpr
        ⟨⟨parameter, isParameter, position⟩, placeholder, isPlaceholder, by rw [isTarget]⟩)))
    · refine .inr (.inr ⟨rfl, ?_⟩)
      intro placeholder isPlaceholder same
      exact found ⟨placeholder, isPlaceholder, same⟩
  | query =>
    exact .inl (.inl (.inr (mem_references_query_iff.mpr ⟨parameter, isParameter, position, rfl⟩)))
  | body =>
    by_cases first : action.parameters.find? (·.position = .body) = some parameter
    · refine .inl (.inr ?_)
      rw [references_body, first]
      exact List.mem_singleton_self _
    · exact .inr (.inl ⟨rfl, first⟩)

/-! ### Results -/

/-- Whatever was read before, a parameter of an action is in the path exactly if a placeholder has
its name in lower case. Wherever such a placeholder stands in the route, there is a reference to the
parameter if their names differ at most in the case of the letters A to Z, and a reference by the
name of the placeholder if not. -/
theorem path_at_placeholder (server : Server) (context : ControllerContext)
    (declaring : Declaration) (method : Method) (discovery : Discovery)
    {action : Action ClassId} {later : Discovery}
    (read : server.readAction? context declaring method discovery = some (action, later))
    (distinct : (method.parameters.map (Text.lower ·.name)).Nodup)
    (writer : ActionWriter) :
    ∀ parameter ∈ action.parameters,
      (parameter.position = .path ↔ ∃ placeholder ∈ Route.placeholders action.route,
        Text.lower placeholder.name = Text.lower parameter.name) ∧
      ∀ placeholder ∈ Route.placeholders action.route,
        Text.lower placeholder.name = Text.lower parameter.name →
          ∀ before behind, action.route.toList = before ++ (placeholder.plain ++ behind) →
            let name :=
              if Text.lowerAscii parameter.name = Text.lowerAscii placeholder.name then
                parameter.name
              else placeholder.name
            writer.path action = Code.row
              [["\x60"], writer.interpolated action before,
                ["$\x7b", writer.value name, "\x7d"], writer.interpolated action behind,
                ["\x60"]] := by
  have binds := Server.bindsPath_of_readAction? read
  have sameNames := Server.names_of_readAction? read
  have distinctNames : (action.parameters.map (Text.lower ·.name)).Nodup := by
    have lowered := congrArg (List.map Text.lower) sameNames
    rw [List.map_map, List.map_map] at lowered
    exact lowered ▸ distinct
  intro parameter among
  refine ⟨binds parameter among, ?_⟩
  intro placeholder isPlaceholder same before behind whole name
  have inPath := (binds parameter among).mpr ⟨placeholder, isPlaceholder, same⟩
  have isTarget : target action placeholder.name = name :=
    target_eq distinctNames among inPath same
  have proper := (Route.mem_placeholders_iff.mp isPlaceholder).1
  rw [path_of_bound ⟨parameter, among, inPath⟩, whole, interpolated_append_plain_append proper,
    isTarget]
  simp [Code.row]

/-- A server without classes. -/
def wordsServer : Server where
  catalog := Catalog.empty
  convention := .mvc

/-- What actions know about the controller of words. -/
def wordsContext : ControllerContext where
  name := "Words"
  routeStem := none
  authorization := none

/-- A method whose parameters are spelled in another case in the route. -/
def findMethod : Method where
  name := "Get"
  attributes := [.httpGet (some "{Über}/{Id}")]
  parameters :=
    [{ name := "über", type := .named "System.String" [] },
      { name := "id", type := .named "System.Int32" [] }]

/-- A controller with an action that has a placeholder too many, and two parameters for the body. -/
def wordsController : Declaration where
  name := "WordsController"
  methods :=
    [{ name := "Put", attributes := [.httpPut (some "{id}/{lang}")]
       parameters :=
        [{ name := "id", type := .named "System.Int32" [] },
          { name := "first", type := .named "System.String" [], attributes := [.fromBody] },
          { name := "second", type := .named "System.String" [], attributes := [.fromBody] }] }]

/-- Functions that take one object and know no classes. -/
def wordsWriter : ActionWriter where
  scope := ⟨{}, false, .here, .here, ""⟩
  passing := .object

/-- One evaluation tells how the method is read. -/
theorem find_read :
    (findMethod.parameters.map (Text.lower ·.name)).Nodup ∧
      ∃ read ∈ wordsServer.readAction? wordsContext wordsController findMethod {},
        ⟨"Über", false⟩ ∈ Route.placeholders read.1.route ∧
          ⟨"Id", false⟩ ∈ Route.placeholders read.1.route ∧
          (∃ parameter ∈ read.1.parameters, parameter.name = "über") ∧
          (∃ parameter ∈ read.1.parameters, parameter.name = "id") ∧
          (wordsWriter.path read.1).references.map Fragment.spell =
            ["params.Über", "params.id"] := by
  decide +kernel

theorem path_at_id :
    (findMethod.parameters.map (Text.lower ·.name)).Nodup ∧
      ∃ read ∈ wordsServer.readAction? wordsContext wordsController findMethod {},
        ∃ parameter ∈ read.1.parameters, parameter.position = .path ∧
          ∀ before behind, read.1.route.toList = before ++ ("\x7bId\x7d".toList ++ behind) →
            wordsWriter.path read.1 = Code.row
              [["\x60"], wordsWriter.interpolated read.1 before,
                ["$\x7b", wordsWriter.value "id", "\x7d"],
                wordsWriter.interpolated read.1 behind, ["\x60"]] := by
  rcases find_read with ⟨distinct, read, isRead, -, isPlaceholder, -, ⟨parameter, among, isId⟩, -⟩
  have same : Text.lower "Id" = Text.lower parameter.name := by
    rw [isId]
    decide
  have sameAscii : Text.lowerAscii parameter.name = Text.lowerAscii "Id" := by
    rw [isId]
    decide
  have results := path_at_placeholder wordsServer wordsContext wordsController findMethod {} isRead
    distinct wordsWriter parameter among
  refine ⟨distinct, read, isRead, parameter, among, results.1.mpr ⟨_, isPlaceholder, same⟩, ?_⟩
  intro before behind whole
  have occurrence := results.2 _ isPlaceholder same before behind whole
  rw [if_pos sameAscii, isId] at occurrence
  exact occurrence

/-- The parameter is in the path because of its placeholder, and there is no reference to it. -/
theorem path_without_umlaut :
    (findMethod.parameters.map (Text.lower ·.name)).Nodup ∧
      ∃ read ∈ wordsServer.readAction? wordsContext wordsController findMethod {},
        ∃ parameter ∈ read.1.parameters, ∃ placeholder ∈ Route.placeholders read.1.route,
          parameter.position = .path ∧
            Text.lower placeholder.name = Text.lower parameter.name ∧
            wordsWriter.value parameter.name ∉ (wordsWriter.path read.1).references := by
  rcases find_read with
    ⟨distinct, read, isRead, isPlaceholder, -, ⟨parameter, among, isUmlaut⟩, -, references⟩
  have same : Text.lower "Über" = Text.lower parameter.name := by
    rw [isUmlaut]
    decide +kernel
  have inPath := (Server.bindsPath_of_readAction? isRead parameter among).mpr
    ⟨_, isPlaceholder, same⟩
  refine ⟨distinct, read, isRead, parameter, among, _, isPlaceholder, inPath, same, ?_⟩
  intro referred
  have spelled := List.mem_map_of_mem (f := Fragment.spell) referred
  rw [references, isUmlaut] at spelled
  revert spelled
  decide

/-- In an action of a survey whose parameters differ in lower case, the function refers to nothing
but declared parameters, and to placeholders that no parameter has the name of; and all declared
parameters are referred to in the path, the query or the body, apart from those for the body after
the first one, and those in the path that differ from every placeholder by more than the case of the
letters A to Z. -/
theorem references_of_action (server : Server) (declarations : List Declaration) :
    ∀ controller ∈ (Survey.ofControllers server declarations).model.controllers,
      ∀ action ∈ controller.actions, (action.parameters.map (Text.lower ·.name)).Nodup →
        ∀ (writer : ActionWriter) (name : String),
          (∀ line ∈ writer.function name action, ∀ reference ∈ line.references,
            (∃ parameter ∈ writer.declared action, reference = writer.value parameter.name) ∨
              ∃ placeholder ∈ Route.placeholders action.route,
                reference = writer.value placeholder.name ∧
                  ∀ parameter ∈ action.parameters,
                    Text.lowerAscii parameter.name ≠ Text.lowerAscii placeholder.name) ∧
            ∀ parameter ∈ writer.declared action,
              writer.value parameter.name ∈
                  (writer.path action ++ writer.query action ++ writer.body action).references ∨
                (parameter.position = .body ∧
                  action.parameters.find? (·.position = .body) ≠ some parameter) ∨
                parameter.position = .path ∧ ∀ placeholder ∈ Route.placeholders action.route,
                  Text.lowerAscii parameter.name ≠ Text.lowerAscii placeholder.name := by
  intro controller isRead action isAction distinct writer name
  have binds := Survey.bindsPath_ofControllers declarations controller isRead action isAction
  refine ⟨?_, fun parameter among => mem_references_of_declared distinct among⟩
  intro line inFunction reference inLine
  have among : reference ∈ (writer.function name action).flatMap references :=
    List.mem_flatMap.mpr ⟨line, inFunction, inLine⟩
  rw [references_function] at among
  exact declared_of_mem_references binds among

/-- One evaluation tells how the controller is read. -/
theorem words_read :
    ∃ controller ∈ (Survey.ofControllers wordsServer [wordsController]).model.controllers,
      ∃ action ∈ controller.actions, (action.parameters.map (Text.lower ·.name)).Nodup ∧
        (wordsWriter.declared action).map (fun parameter =>
          (wordsWriter.value parameter.name).spell) =
          ["params.id", "params.first", "params.second"] ∧
        ((wordsWriter.function "put" action).flatMap references).map Fragment.spell =
          ["params.id", "params.lang", "params.first"] := by
  decide +kernel

theorem references_of_words :
    ∃ controller ∈ (Survey.ofControllers wordsServer [wordsController]).model.controllers,
      ∃ action ∈ controller.actions, (action.parameters.map (Text.lower ·.name)).Nodup ∧
        ∀ line ∈ wordsWriter.function "put" action, ∀ reference ∈ line.references,
          (∃ parameter ∈ wordsWriter.declared action,
              reference = wordsWriter.value parameter.name) ∨
            ∃ placeholder ∈ Route.placeholders action.route,
              reference = wordsWriter.value placeholder.name := by
  rcases words_read with ⟨controller, isRead, action, isAction, distinct, -, -⟩
  have results := references_of_action wordsServer [wordsController] controller isRead action
    isAction distinct wordsWriter "put"
  refine ⟨controller, isRead, action, isAction, distinct, ?_⟩
  intro line inFunction reference inLine
  rcases results.1 line inFunction reference inLine with
    declared | ⟨placeholder, isPlaceholder, same, -⟩
  · exact .inl declared
  · exact .inr ⟨placeholder, isPlaceholder, same⟩

/-- There is a reference to what is not declared, and a declared parameter is not referred to. -/
theorem undeclared_in_words :
    ∃ controller ∈ (Survey.ofControllers wordsServer [wordsController]).model.controllers,
      ∃ action ∈ controller.actions, (action.parameters.map (Text.lower ·.name)).Nodup ∧
        (∃ line ∈ wordsWriter.function "put" action, ∃ reference ∈ line.references,
          ∀ parameter ∈ wordsWriter.declared action,
            reference ≠ wordsWriter.value parameter.name) ∧
        ∃ parameter ∈ wordsWriter.declared action,
          wordsWriter.value parameter.name ∉ (wordsWriter.path action ++
            wordsWriter.query action ++ wordsWriter.body action).references := by
  rcases words_read with ⟨controller, isRead, action, isAction, distinct, declared, references⟩
  refine ⟨controller, isRead, action, isAction, distinct, ?_, ?_⟩
  · have lang : "params.lang" ∈
        ((wordsWriter.function "put" action).flatMap Code.references).map Fragment.spell := by
      rw [references]
      decide
    rcases List.mem_map.mp lang with ⟨reference, among, spelled⟩
    rcases List.mem_flatMap.mp among with ⟨line, inFunction, inLine⟩
    refine ⟨line, inFunction, reference, inLine, ?_⟩
    rintro parameter isDeclared rfl
    have listed : "params.lang" ∈
        (wordsWriter.declared action).map fun parameter =>
          (wordsWriter.value parameter.name).spell :=
      List.mem_map.mpr ⟨parameter, isDeclared, spelled⟩
    rw [declared] at listed
    revert listed
    decide
  · have second : "params.second" ∈
        (wordsWriter.declared action).map fun parameter =>
          (wordsWriter.value parameter.name).spell := by
      rw [declared]
      decide
    rcases List.mem_map.mp second with ⟨parameter, isDeclared, spelled⟩
    refine ⟨parameter, isDeclared, ?_⟩
    intro referred
    rw [← references_function "put"] at referred
    have listed := List.mem_map_of_mem (f := Fragment.spell) referred
    rw [references, spelled] at listed
    revert listed
    decide

end ActionWriter

end ClientGen.TypeScript

import ClientGen.Proofs.TypeScript.Linking
import ClientGen.Proofs.TypeScript.Members

/-!
# The helpers that a module provides

The wrappers of a client are in a module of their own or, in a single client, in the only one. This
module declares or imports a helper if and only if the code of some property calls it. Lines of
classes, controllers and the factory begin like neither functions nor imports, so the only lines
that bring in a helper are those written for the helpers that were noted; and what was noted step by
step while the code was written is what the code calls.
-/

namespace ClientGen.TypeScript

open Code

variable {helper other : Helper} {scope : Scope} {entry : ClassEntry ClassId}
  {lines others : List Code} {line code : Code}

/-- The classes that have a wrapper. -/
def Scope.wrapped (scope : Scope) : List (ClassEntry ClassId) :=
  scope.table.classes.filter scope.hasWrapper

/-! ### Lines that bring in helpers -/

/-- How the line begins that declares a helper or imports it. -/
def Helper.heading : Helper → String
  | .toDate => "function toDate"
  | .fromDate => "function fromDate"
  | .arrayChanged => "function arrayChanged"
  | .dateArrayChanged => "function dateArrayChanged"
  | .validation => "import * as validation "
  | .loading => "import \x7b loading \x7d "

/-- Whether a line declares a helper or imports it. -/
def Code.Provides (line : Code) (helper : Helper) : Prop :=
  helper.heading.toList <+: line.spell.toList

/-- Whether a module declares a helper or imports it. -/
def Draft.Provides (draft : Draft) (helper : Helper) : Prop :=
  ∃ line ∈ draft.lines, line.Provides helper

/-- Whether a text has a beginning that is not that of a function or an import. -/
def beginsOther (text : String) : Bool :=
  text.toList.head?.any fun c => c != 'f' && c != 'i'

/-- Whether some code does not begin like a function or an import. -/
def Code.IsOther (code : Code) : Prop :=
  ∀ c ∈ code.spell.toList.head?, c ≠ 'f' ∧ c ≠ 'i'

theorem head?_heading (helper : Helper) :
    helper.heading.toList.head? = some 'f' ∨ helper.heading.toList.head? = some 'i' := by
  cases helper <;> decide

theorem Code.IsOther.not_provides (isOther : line.IsOther) : ¬ line.Provides helper := by
  rintro ⟨behind, whole⟩
  have sameHead : line.spell.toList.head? = helper.heading.toList.head? := by
    rw [← whole]
    rcases head?_heading helper with first | first <;> simp [List.head?_append, first]
  rcases head?_heading helper with first | first
  · exact (isOther _ (sameHead.trans first)).1 rfl
  · exact (isOther _ (sameHead.trans first)).2 rfl

theorem isOther_nil : Code.IsOther [] := by
  simp [Code.IsOther, spell]

theorem beginsOther_ofList {cs : List Char} :
    beginsOther (String.ofList cs) = cs.head?.any fun c => c != 'f' && c != 'i' := by
  rw [beginsOther, String.toList_ofList]

theorem beginsOther_append {text other : String} (first : beginsOther text = true) :
    beginsOther (text ++ other) = true := by
  rw [beginsOther, Option.any_eq_true] at first ⊢
  rcases first with ⟨c, isFirst, notLetter⟩
  exact ⟨c, by simp [List.head?_append, isFirst], notLetter⟩

theorem isOther_text {text : String} (other : beginsOther text = true) :
    Code.IsOther (.text text :: code) := by
  rw [beginsOther, Option.any_eq_true] at other
  rcases other with ⟨c, first, notLetter⟩
  intro d isFirst
  rw [spell_cons, String.toList_append, Fragment.spell, List.head?_append, first] at isFirst
  cases isFirst
  simpa using notLetter

theorem isOther_indent (code : Code) : code.indent.IsOther :=
  isOther_text (by decide)

/-! ### Lines of classes -/

/-- Whether no line begins like a function or an import. -/
def Code.AllOther (lines : List Code) : Prop :=
  ∀ line ∈ lines, line.IsOther

@[simp]
theorem allOther_nil : AllOther [] :=
  List.forall_mem_nil _

@[simp]
theorem allOther_cons : AllOther (line :: lines) ↔ line.IsOther ∧ AllOther lines :=
  List.forall_mem_cons

@[simp]
theorem allOther_append : AllOther (lines ++ others) ↔ AllOther lines ∧ AllOther others :=
  List.forall_mem_append

@[simp]
theorem allOther_stack {groups : List (List Code)} :
    AllOther (stack groups) ↔ ∀ group ∈ groups, AllOther group := by
  simp only [AllOther, stack, List.mem_flatten, forall_exists_index, and_imp]
  exact ⟨fun all group isGroup line among => all line group isGroup among,
    fun all line group isGroup among => all group isGroup line among⟩

theorem allOther_flatMap {α : Type} {items : List α} {group : α → List Code} :
    AllOther (items.flatMap group) ↔ ∀ item ∈ items, AllOther (group item) :=
  List.forall_mem_flatMap

theorem allOther_map_indent : AllOther (lines.map indent) :=
  List.forall_mem_map.mpr fun line _ => isOther_indent line

theorem allOther_comment {documentation : Option String} :
    AllOther (Code.comment documentation) := by
  unfold Code.comment
  split
  · split
    · exact allOther_nil
    · exact allOther_cons.mpr ⟨isOther_text (by decide), allOther_nil⟩
  · exact allOther_nil

theorem allOther_documented {documentation : Option String} :
    AllOther (documented documentation line) :=
  allOther_map_indent

theorem allOther_separated {groups : List (List Code)} (all : ∀ group ∈ groups, AllOther group) :
    AllOther (separated groups) := by
  induction groups with
  | nil => exact allOther_nil
  | cons group groups ih =>
    rw [List.forall_mem_cons] at all
    cases groups with
    | nil => exact all.1
    | cons next groups =>
      exact allOther_append.mpr ⟨all.1, allOther_cons.mpr ⟨isOther_nil, ih all.2⟩⟩

theorem allOther_enumLines (values : List EnumValue) : AllOther (enumLines values) := by
  induction values with
  | nil => exact allOther_cons.mpr ⟨isOther_nil, allOther_nil⟩
  | cons value values ih =>
    cases values with
    | nil => exact allOther_documented
    | cons next values =>
      exact allOther_append.mpr ⟨allOther_documented, allOther_cons.mpr ⟨isOther_nil, ih⟩⟩

theorem allOther_definition : AllOther (scope.definition entry) := by
  rw [Scope.definition_eq]
  split
  · next properties _ =>
    have members : AllOther (separated (properties.map scope.property)) :=
      allOther_separated (List.forall_mem_map.mpr fun _ _ => allOther_documented)
    simp (disch := decide) [isOther_nil, allOther_comment, members, isOther_text]
  · simp (disch := decide) [isOther_nil, allOther_comment, allOther_enumLines, isOther_text]

theorem allOther_wrapperClass : AllOther (scope.wrapperClass entry) := by
  have fields : AllOther (entry.properties.flatMap fun property =>
      [] :: documented property.documentation (scope.field property)) :=
    allOther_flatMap.mpr fun _ _ => allOther_cons.mpr ⟨isOther_nil, allOther_documented⟩
  have functions (lines : List Code) :
      AllOther (lines.map fun line => if line.isEmpty then line else line.indent) := by
    refine List.forall_mem_map.mpr fun line _ => ?_
    cases line with
    | nil => exact isOther_nil
    | cons => exact isOther_indent _
  have valid (properties : List (ClassProperty ClassId)) : AllOther (validity properties) := by
    rw [validity_eq]
    split
    · exact allOther_nil
    · exact allOther_cons.mpr ⟨isOther_nil, allOther_cons.mpr ⟨isOther_indent _, allOther_nil⟩⟩
  simp only [Scope.wrapperClass_eq, allOther_stack, List.forall_mem_cons, allOther_cons]
  refine ⟨⟨isOther_nil, allOther_nil⟩, allOther_comment, ⟨isOther_text (by decide),
    isOther_indent _, isOther_indent _, allOther_nil⟩, fields, functions _, valid _,
    ⟨isOther_text (by decide), allOther_nil⟩, List.forall_mem_nil _⟩

theorem allOther_controllerClass {writer : ActionWriter} {controller : Controller ClassId} :
    AllOther (writer.controllerClass controller) := by
  have functions : AllOther (controller.uniqueNames.flatMap fun named =>
      [] :: writer.function (QualifiedName.camelCase named.1) named.2) :=
    allOther_flatMap.mpr fun _ _ => allOther_cons.mpr ⟨isOther_nil, allOther_map_indent⟩
  simp only [ActionWriter.controllerClass_eq, allOther_stack, List.forall_mem_cons, allOther_cons]
  exact ⟨allOther_comment, ⟨isOther_text (by decide), isOther_text (by decide), allOther_nil⟩,
    functions, ⟨isOther_text (by decide), isOther_nil, allOther_nil⟩, List.forall_mem_nil _⟩

theorem allOther_factory (controllers : List (Controller ClassId))
    (classOf : Controller ClassId → String) : AllOther (factory controllers classOf) := by
  have fields : AllOther (controllers.map fun controller =>
      [.text "        ", .text (QualifiedName.camelCase controller.name), .text ": new ",
        .text (classOf controller), .text "(client),"]) :=
    List.forall_mem_map.mpr fun _ _ => isOther_text (by decide)
  simp only [factory, allOther_stack, List.forall_mem_cons, allOther_cons]
  exact ⟨⟨isOther_text (by decide), isOther_text (by decide), allOther_nil⟩, fields,
    ⟨isOther_text (by decide), isOther_text (by decide), allOther_nil⟩, List.forall_mem_nil _⟩

/-! ### Imports and declarations -/

/-- The lines that bring a helper into a module. -/
def Options.provision (options : Options) (helper : Helper) : List Code :=
  options.importHelper helper ++ helper.declaration.map fun line => [.text line]

variable {options : Options}

theorem provides_importAs {name module : String} (plain : name ∈ ["helpers", "ko", "views"]) :
    ¬ (importAs name module).Provides helper := by
  simp only [List.mem_cons, List.not_mem_nil, or_false] at plain
  rcases plain with rfl | rfl | rfl <;> cases helper <;>
    simp [Code.Provides, Helper.heading, importAs, spell, Fragment.spell]

theorem provides_text {text : String} :
    Code.Provides [.text text] helper ↔ helper.heading.toList <+: text.toList := by
  simp [Code.Provides, spell, Fragment.spell]

/-- A helper is imported in one line, or declared in a line with nothing like it around. -/
theorem provision_cases (options : Options) (helper : Helper) :
    ∃ front line behind, options.provision helper = front ++ line :: behind ∧
      line.Provides helper ∧ AllOther front ∧ AllOther behind := by
  have blank : AllOther [[.text ""]] := by
    simp [Code.IsOther, spell, Fragment.spell]
  -- The characters of long texts are told by lemmas, which is much faster than by evaluation.
  cases helper with
  | validation =>
    refine ⟨[], importAs "validation" options.validationModule, [], rfl, ?_, allOther_nil,
      allOther_nil⟩
    simp [Code.Provides, Helper.heading, importAs, spell, Fragment.spell]
  | loading =>
    refine ⟨[], _, [], rfl, ?_, allOther_nil, allOther_nil⟩
    simp [Code.Provides, Helper.heading, spell, Fragment.spell]
  | toDate | fromDate =>
    refine ⟨[[.text ""]], _, _, rfl, ?_, blank, ?_⟩
    · rw [provides_text, Helper.heading, String.toList_ofList, String.toList_ofList]
      exact ⟨_, rfl⟩
    · simp only [List.map_cons, allOther_cons, List.map_nil]
      exact ⟨isOther_text beginsOther_ofList, isOther_text beginsOther_ofList, allOther_nil⟩
  | arrayChanged | dateArrayChanged =>
    refine ⟨[[.text ""]], _, _, rfl, ?_, blank, ?_⟩
    · rw [provides_text, Helper.heading, String.toList_append, String.toList_ofList,
        String.toList_ofList]
      exact ⟨_, rfl⟩
    · simp only [List.map_cons, allOther_cons, List.map_nil]
      exact ⟨isOther_text beginsOther_ofList, isOther_text beginsOther_ofList,
        isOther_text (beginsOther_append beginsOther_ofList), isOther_text beginsOther_ofList,
        allOther_nil⟩

/-- No line provides two helpers. -/
theorem eq_of_provides (first : line.Provides helper) (second : line.Provides other) :
    helper = other := by
  have noPrefix : helper.heading.toList <+: other.heading.toList → helper = other := by
    cases helper <;> cases other <;> simp [Helper.heading]
  have noPrefixToo : other.heading.toList <+: helper.heading.toList → helper = other := by
    cases helper <;> cases other <;> simp [Helper.heading]
  exact (List.prefix_or_prefix_of_prefix first second).elim noPrefix noPrefixToo

namespace Options

variable {dependencies : Dependencies}

theorem mem_needed_iff :
    helper ∈ Helper.all.filter (fun helper => dependencies.has (.helper helper)) ↔
      dependencies.has (.helper helper) = true := by
  have among : helper ∈ Helper.all := by cases helper <;> decide
  rw [List.mem_filter, and_iff_right among]

/-- What is written for the helpers that are noted, the imports first. -/
theorem mem_provide_iff : line ∈ options.provide dependencies ↔
    ∃ helper, dependencies.has (.helper helper) = true ∧ line ∈ options.provision helper := by
  simp only [provide, stack, provision, List.flatten_cons, List.flatten_nil, List.append_nil,
    List.mem_append, List.mem_flatMap, mem_needed_iff]
  constructor
  · rintro (⟨helper, noted, imported⟩ | ⟨helper, noted, declared⟩)
    · exact ⟨helper, noted, .inl imported⟩
    · exact ⟨helper, noted, .inr declared⟩
  · rintro ⟨helper, noted, imported | declared⟩
    · exact .inl ⟨helper, noted, imported⟩
    · exact .inr ⟨helper, noted, declared⟩

theorem provides_iff :
    (∃ line ∈ options.provide dependencies, line.Provides helper) ↔
      dependencies.has (.helper helper) = true := by
  constructor
  · rintro ⟨line, among, provides⟩
    obtain ⟨other, noted, written⟩ := mem_provide_iff.mp among
    obtain ⟨front, heading, behind, whole, isHeading, before, after⟩ :=
      provision_cases options other
    rw [whole, List.mem_append, List.mem_cons] at written
    rcases written with inFront | rfl | isBehind
    · exact absurd provides (before line inFront).not_provides
    · rwa [eq_of_provides provides isHeading]
    · exact absurd provides (after line isBehind).not_provides
  · intro noted
    obtain ⟨front, heading, behind, whole, isHeading, -, -⟩ := provision_cases options helper
    refine ⟨heading, mem_provide_iff.mpr ⟨helper, noted, ?_⟩, isHeading⟩
    simp [whole]

theorem infix_flatMap {α β : Type} {items : List α} {item : α} (among : item ∈ items)
    (group : α → List β) : group item <:+: items.flatMap group := by
  obtain ⟨before, behind, rfl⟩ := List.append_of_mem among
  exact ⟨before.flatMap group, behind.flatMap group, by simp⟩

/-- All that is written for a helper stands together. -/
theorem infix_provide (noted : dependencies.has (.helper helper) = true) :
    options.provision helper <:+: options.provide dependencies := by
  have among := mem_needed_iff.mpr noted
  have imports := infix_flatMap among options.importHelper
  have declarations := infix_flatMap among fun helper : Helper =>
    helper.declaration.map fun line => [Fragment.text line]
  simp only [provide, stack, List.flatten_cons, List.flatten_nil, List.append_nil]
  cases helper with
  | validation | loading => exact imports.trans (List.prefix_append _ _).isInfix
  | _ => exact declarations.trans (List.suffix_append _ _).isInfix

theorem provide_eq_nil (silent : ∀ helper, dependencies.has (.helper helper) = false) :
    options.provide dependencies = [] := by
  simp [provide, stack, silent]

/-! ### The module with the wrappers -/

variable {model : ServiceModel ClassId}

/-- The module with the wrappers of a client. -/
def hostDraft (options : Options) (model : ServiceModel ClassId) : Draft :=
  match options.bundling with
  | .split => options.wrapperDraft model
  | .single => options.singleDraft model

/-- What the module with the wrappers knows about classes. -/
def hostScope (options : Options) (model : ServiceModel ClassId) : Scope :=
  match options.bundling with
  | .split => wrapperScope model
  | .single => options.singleScope model

/-- What is noted while the module with the wrappers is written. -/
def hostNeeds (options : Options) (model : ServiceModel ClassId) : Dependencies :=
  match options.bundling with
  | .split => (wrapperScope model).writeWrapperClasses.needs
  | .single => (options.writeSingle model).needs

/-- Whether a module consists of imports, of the helpers that were noted, and of lines with the
wrappers that bring in nothing. What was noted is what the lines call. -/
structure Hosts (options : Options) (scope : Scope) (draft : Draft) (needs : Dependencies)
    (imports lines : List Code) : Prop where
  whole : draft.lines = imports ++ (options.provide needs ++ lines)
  imports : ∀ line ∈ imports, ∀ helper, ¬ line.Provides helper
  others : AllOther lines
  wrappers : ∀ entry ∈ scope.wrapped, ∀ line ∈ scope.wrapperClass entry, line ∈ lines
  noted : ∀ helper, needs.has (.helper helper) = lines.any (Code.calls helper)
  calls : ∀ helper, lines.any (Code.calls helper) =
    scope.wrapped.any fun entry => (scope.memberCode entry).any (Code.calls helper)

theorem hosts_wrapperDraft (options : Options) (model : ServiceModel ClassId) :
    ∃ imports lines, options.Hosts (wrapperScope model) (options.wrapperDraft model)
      (wrapperScope model).writeWrapperClasses.needs imports lines := by
  refine ⟨[header, importAs "ko" "knockout", importAs "views" "../views"],
    (wrapperScope model).writeWrapperClasses.value, ?_, ?_, ?_, ?_, ?_, ?_⟩
  · simp [wrapperDraft, stack]
  · have ofHeader : header.IsOther := isOther_text (by decide)
    simp [ofHeader.not_provides, provides_importAs]
  · rw [Scope.value_writeWrapperClasses]
    exact allOther_flatMap.mpr fun entry _ => allOther_wrapperClass
  · intro entry among line inside
    rw [Scope.value_writeWrapperClasses]
    exact List.mem_flatMap.mpr ⟨entry, among, inside⟩
  · intro helper
    exact Scope.has_writeWrapperClasses (isSited_wrapperScope model)
  · intro helper
    simp only [Scope.value_writeWrapperClasses, Scope.wrapped, List.any_flatMap,
      any_calls_wrapperClass]

theorem any_calls_writeSingle (options : Options) (model : ServiceModel ClassId) :
    (options.writeSingle model).value.any (Code.calls helper) =
      (options.singleScope model).wrapped.any fun entry =>
        ((options.singleScope model).memberCode entry).any (Code.calls helper) := by
  have silent {α : Type} (items : List α) : (items.any fun _ => false) = false :=
    List.any_eq_false.mpr fun _ _ => Bool.false_ne_true
  have sameTable : (options.singleScope model).table = model.types := rfl
  simp [value_writeSingle, Scope.wrapped, sameTable, List.any_flatMap, Scope.any_calls_definition,
    any_calls_wrapperClass, ActionWriter.any_calls_controllerClass, any_dependsOn_factory, silent]

theorem hosts_singleDraft (options : Options) (model : ServiceModel ClassId) :
    ∃ imports lines, options.Hosts (options.singleScope model) (options.singleDraft model)
      (options.writeSingle model).needs imports lines := by
  refine ⟨[header, importAs "helpers" options.helpersModule] ++
    if model.types.classes.any (options.singleScope model).hasWrapper then
      [importAs "ko" "knockout"] else [],
    (options.writeSingle model).value, ?_, ?_, ?_, ?_, fun _ => has_writeSingle options model, ?_⟩
  · simp only [singleDraft, stack, List.flatten_cons, List.flatten_nil, List.append_nil,
      List.append_assoc]
    split
    · rfl
    · next noWrapper =>
      -- Without wrappers nothing is called, so it makes no difference that nothing is provided.
      have noneWrapped : (options.singleScope model).wrapped = [] := by
        rw [Scope.wrapped, List.filter_eq_nil_iff]
        exact List.any_eq_false.mp (Bool.not_eq_true _ ▸ noWrapper)
      have silent : options.provide (options.writeSingle model).needs = [] := by
        refine provide_eq_nil fun helper => ?_
        rw [has_writeSingle, any_calls_writeSingle, noneWrapped]
        rfl
      rw [silent]
      rfl
  · have ofHeader : header.IsOther := isOther_text (by decide)
    split <;> simp [ofHeader.not_provides, provides_importAs]
  · have controllersOther : AllOther ((orderedControllers model).flatMap
        (ActionWriter.controllerClass ⟨options.singleScope model, options.passing⟩)) :=
      allOther_flatMap.mpr fun _ _ => allOther_controllerClass
    have definitionsOther :
        AllOther (model.types.classes.flatMap (options.singleScope model).definition) :=
      allOther_flatMap.mpr fun _ _ => allOther_definition
    have wrappersOther : AllOther ((model.types.classes.filter
        (options.singleScope model).hasWrapper).flatMap (options.singleScope model).wrapperClass) :=
      allOther_flatMap.mpr fun _ _ => allOther_wrapperClass
    rw [value_writeSingle]
    simp [controllersOther, definitionsOther, wrappersOther, allOther_factory, isOther_nil]
  · intro entry among line inside
    have isLine := List.mem_flatMap.mpr ⟨entry, among, inside⟩
    simp only [value_writeSingle, stack, List.flatten_cons, List.mem_append]
    exact .inr (.inl isLine)
  · intro helper
    exact any_calls_writeSingle options model

theorem hosts_hostDraft (options : Options) (model : ServiceModel ClassId) :
    ∃ imports lines, options.Hosts (options.hostScope model) (options.hostDraft model)
      (options.hostNeeds model) imports lines := by
  unfold hostScope hostDraft hostNeeds
  cases options.bundling with
  | split => exact options.hosts_wrapperDraft model
  | single => exact options.hosts_singleDraft model

/-- A module with wrappers is stored under its name, and nothing replaces it. -/
theorem find?_hostDraft (valid : model.validate = .ok ())
    (isObservable : options.observable = true) :
    Ordered.find? (options.hostDraft model).name (options.client model).modules =
      some (Code.spellLines (options.hostDraft model).lines) := by
  rw [modules_of_valid valid]
  unfold hostDraft
  cases bundling : options.bundling with
  | split =>
    rw [drafts_of_split bundling, if_pos isObservable, List.append_assoc, List.map_append]
    refine Ordered.find?_ofList_of_last ?_
    simp [finished, wrapperDraft, servicesDraft]
  | single =>
    rw [drafts, bundling]
    simp [Ordered.find?_ofList, finished]

end Options

/-! ### Identifiers -/

/-- Whether the names of classes, properties and generic parameters in a model are identifiers. -/
structure HasIdentifiers (model : ServiceModel ClassId) : Prop where
  classes : ∀ entry ∈ model.types.classes, IsIdentifier entry.name
  properties : ∀ entry ∈ model.types.classes, ∀ property ∈ entry.properties,
    IsIdentifier property.name
  compared : ∀ entry ∈ model.types.classes, ∀ property ∈ entry.properties,
    ∀ other ∈ property.constraints.compare, IsIdentifier other
  parameters : ∀ entry ∈ model.types.classes, ∀ property ∈ entry.properties,
    ∀ part ∈ property.shape.parts, ∀ name ∈ part.parameterName, IsIdentifier name

section Identifiers

variable {model : ServiceModel ClassId} {property : ClassProperty ClassId}

theorem suffix_hostScope (options : Options) (model : ServiceModel ClassId) :
    (options.hostScope model).wrapperSuffix.toList.all isIdentifierChar = true := by
  unfold Options.hostScope
  cases options.bundling with
  | split => exact (by decide : "".toList.all isIdentifierChar = true)
  | single => exact (by decide : "Observable".toList.all isIdentifierChar = true)

theorem table_hostScope (options : Options) (model : ServiceModel ClassId) :
    (options.hostScope model).table = model.types := by
  unfold Options.hostScope
  split <;> rfl

variable (valid : model.validate = .ok ()) (identifiers : HasIdentifiers model)
  (sameTable : scope.table = model.types)
  (suffix : scope.wrapperSuffix.toList.all isIdentifierChar = true)
  (among : entry ∈ model.types.classes) (inside : property ∈ entry.properties)

include valid identifiers sameTable suffix among inside

theorem isNamedClass_classType {part : Shape ClassId} (isPart : part ∈ property.shape.parts)
    (needs : part.needsClass = true) (live : Bool) : (scope.classType live part).IsNamedClass := by
  have isShape : property.shape ∈ model.shapes :=
    List.mem_append_right _ (List.mem_flatMap.mpr ⟨entry, among, List.mem_map_of_mem inside⟩)
  obtain ⟨found, isFound⟩ := Scope.covers_of_valid valid sameTable isShape part isPart needs
  have isClass : found ∈ model.types.classes := sameTable ▸ Scope.mem_classes_of_classOf isFound
  obtain ⟨home, name, identifier, whole, -⟩ := Scope.exists_classType suffix
    ⟨found, isFound, identifiers.classes found isClass⟩ live
  exact ⟨home, name, identifier, whole⟩

theorem grants_isNamed : scope.Grants ClientType.IsNamed property.shape where
  words := by
    have all : ∀ name ∈ Scope.plainWords, name.toList ≠ [] ∧
      name.toList.all isIdentifierChar = true := by decide
    exact fun name isWord => ⟨(all name isWord).1, (all name isWord).2⟩
  parts part isPart :=
    { parameter := fun _ => identifiers.parameters entry among property inside part isPart
      ownClass := by
        intro needs live
        obtain ⟨home, name, identifier, whole⟩ := isNamedClass_classType valid identifiers
          sameTable suffix among inside isPart needs live
        rw [whole]
        exact identifier }

theorem isNamed_holding : (scope.holding property).IsNamed := by
  have ofWrapper {type : ClientType} (wrapped : scope.wrapper? property.shape = some type) :
      type.IsNamedClass := by
    obtain ⟨isObject, rfl⟩ := Scope.classType_of_wrapper? wrapped
    exact isNamedClass_classType valid identifiers sameTable suffix among inside
      property.shape.mem_parts_self (by simp [Shape.needsClass, isObject]) true
  cases held : scope.holding property with
  | wrapper type => exact ofWrapper (wrapper?_of_holding (.inl held))
  | wrappers type => exact ofWrapper (wrapper?_of_holding (.inr held))
  | _ => trivial

end Identifiers

/-- In the code of properties the helpers are called that are marked in it. -/
theorem callsAsMarked_memberCode {model : ServiceModel ClassId} (valid : model.validate = .ok ())
    (identifiers : HasIdentifiers model) (sameTable : scope.table = model.types)
    (suffix : scope.wrapperSuffix.toList.all isIdentifierChar = true)
    (among : entry ∈ model.types.classes) :
    ∀ code ∈ scope.memberCode entry, code.CallsAsMarked := by
  have names := identifiers.properties entry among
  simp only [Scope.memberCode, stack, List.flatten_cons, List.flatten_nil, List.append_nil,
    List.forall_mem_append, List.forall_mem_map, Scope.plainFields_eq]
  refine ⟨?_, ?_, ?_, ?_, callsAsMarked_validity names⟩
  · intro property inside
    exact callsAsMarked_field (names property inside)
      (identifiers.compared entry among property inside)
      (grants_isNamed valid identifiers sameTable suffix among inside)
  · intro property kept
    exact callsAsMarked_changed (names property (List.mem_filter.mp kept).1) _
  · intro property inside
    exact callsAsMarked_plainField (names property inside) _
  · intro property inside
    exact callsAsMarked_load (names property inside)
      (isNamed_holding valid identifiers sameTable suffix among inside)

/-! ### Results -/

namespace Options

/-- Whether the module with the wrappers of a client provides exactly the helpers that are called
in it. -/
structure Equipped (options : Options) (model : ServiceModel ClassId) : Prop where
  stored :
    let name := match options.bundling with
      | .split => "ko/views"
      | .single => "services"
    Ordered.find? name (options.client model).modules =
      some (Code.spellLines (options.hostDraft model).lines)
  /-- The code of properties stands in the module. -/
  written : ∀ entry ∈ (options.hostScope model).wrapped,
    ∀ code ∈ (options.hostScope model).memberCode entry,
      ∃ line ∈ (options.hostDraft model).lines, code <:+: line
  /-- What is noted while the module is written is what is called in it. -/
  noted_iff_calls : ∀ helper, (options.hostNeeds model).has (.helper helper) = true ↔
    ∃ entry ∈ (options.hostScope model).wrapped,
      ∃ code ∈ (options.hostScope model).memberCode entry, code.calls helper = true
  provides_iff_calls : ∀ helper, (options.hostDraft model).Provides helper ↔
    ∃ entry ∈ (options.hostScope model).wrapped,
      ∃ code ∈ (options.hostScope model).memberCode entry, code.calls helper = true
  provides_iff_needs : ∀ helper, (options.hostDraft model).Provides helper ↔
    ∃ entry ∈ (options.hostScope model).wrapped,
      ∃ property ∈ entry.properties, (options.hostScope model).Needs property helper
  /-- What is provided is there in full. -/
  complete : ∀ helper, (options.hostDraft model).Provides helper →
    options.provision helper <:+: (options.hostDraft model).lines
  /-- Among identifiers, calls can be told from the text. -/
  provides_iff_called : HasIdentifiers model →
    ∀ helper, (options.hostDraft model).Provides helper ↔
      ∃ entry ∈ (options.hostScope model).wrapped,
        ∃ code ∈ (options.hostScope model).memberCode entry, helper.name ∈ code.called

variable {options : Options} {model : ServiceModel ClassId} {draft : Draft} {needs : Dependencies}
  {imports : List Code}

/-- A module provides the helpers that were noted. -/
theorem Hosts.provides_iff (hosts : options.Hosts scope draft needs imports lines) :
    draft.Provides helper ↔ needs.has (.helper helper) = true := by
  rw [← Options.provides_iff, Draft.Provides, hosts.whole]
  constructor
  · rintro ⟨line, among, provides⟩
    rw [List.mem_append, List.mem_append] at among
    rcases among with imported | provided | others
    · exact absurd provides (hosts.imports line imported helper)
    · exact ⟨line, provided, provides⟩
    · exact absurd provides (hosts.others line others).not_provides
  · rintro ⟨line, provided, provides⟩
    exact ⟨line, List.mem_append_right _ (List.mem_append_left _ provided), provides⟩

/-- The helpers that were noted are those that the code of properties calls. -/
theorem Hosts.noted_iff (hosts : options.Hosts scope draft needs imports lines) :
    needs.has (.helper helper) = true ↔
      ∃ entry ∈ scope.wrapped, ∃ code ∈ scope.memberCode entry, code.calls helper = true := by
  simp only [hosts.noted, hosts.calls, List.any_eq_true]

end Options

/-- For every valid model with wrappers, the module that they are written to declares or imports a
helper if and only if the code of some property calls it, be it where the property is declared, to
tell whether it has changed, in its plain data, when it is loaded, or to tell whether it is valid.
What a property needs can be told from its shape and its constraints. -/
theorem helpers_provided_iff_called (options : Options) (model : ServiceModel ClassId)
    (valid : model.validate = .ok ()) (isObservable : options.observable = true) :
    options.Equipped model := by
  obtain ⟨imports, lines, hosts⟩ := options.hosts_hostDraft model
  have calls (helper : Helper) : (options.hostDraft model).Provides helper ↔
      ∃ entry ∈ (options.hostScope model).wrapped,
        ∃ code ∈ (options.hostScope model).memberCode entry, code.calls helper = true :=
    hosts.provides_iff.trans hosts.noted_iff
  refine ⟨?_, ?_, fun helper => hosts.noted_iff, calls, ?_, ?_, ?_⟩
  · have stored := Options.find?_hostDraft valid isObservable
    intro name
    have sameName : (options.hostDraft model).name = name := by
      simp only [name, Options.hostDraft]
      split <;> rfl
    rwa [sameName] at stored
  · intro entry among code inside
    obtain ⟨line, isLine, isInfix⟩ := exists_line_of_mem_memberCode inside
    refine ⟨line, ?_, isInfix⟩
    rw [hosts.whole]
    exact List.mem_append_right _ (List.mem_append_right _ (hosts.wrappers entry among line isLine))
  · intro helper
    rw [calls]
    refine exists_congr fun entry => and_congr_right fun _ => ?_
    rw [← any_calls_memberCode_iff, List.any_eq_true]
  · intro helper provided
    have noted := hosts.provides_iff.mp provided
    rw [hosts.whole]
    exact (Options.infix_provide noted).trans ⟨imports, lines, by simp⟩
  · intro identifiers helper
    rw [calls]
    refine exists_congr fun entry => and_congr_right fun among => ?_
    have isClass : entry ∈ model.types.classes := by
      rw [← table_hostScope options model]
      exact (List.mem_filter.mp among).1
    have marked := callsAsMarked_memberCode valid identifiers (table_hostScope options model)
      (suffix_hostScope options model) isClass
    exact exists_congr fun code => and_congr_right fun inside => (marked code inside helper).symm

/-- Times of a meeting that are plain numbers are compared one by one, and need nothing else. -/
theorem helpers_provided_of_meetings :
    let options : Options := { bundling := .single, observable := true }
    let times : Shape ClassId := { kind := .int, layers := [.array] }
    let model := Scope.office times
    let draft := options.hostDraft model
    model.validate = .ok () ∧ options.observable = true ∧ options.Equipped model ∧
      (∀ helper, draft.Provides helper ↔ helper = .arrayChanged) ∧ HasIdentifiers model ∧
      ∃ code ∈ (options.hostScope model).memberCode (Scope.meeting times),
        "arrayChanged" ∈ code.called := by
  intro options times model draft
  have valid : model.validate = .ok () := rfl
  have equipped := helpers_provided_iff_called options model valid rfl
  have wrapped : (options.hostScope model).wrapped = [Scope.meeting times] := rfl
  have properties : (Scope.meeting times).properties = [Scope.timeOf times] := rfl
  have classes : model.types.classes = [Scope.meeting times] := rfl
  have parts : times.parts = [times] := rfl
  have provides (helper : Helper) : draft.Provides helper ↔ helper = .arrayChanged := by
    have needs : (options.hostScope model).Needs (Scope.timeOf times) helper ↔
        helper = .arrayChanged := by
      cases helper <;> simp [Scope.Needs, Scope.timeOf, times, Scope.wrapper?_eq]
    simp [draft, equipped.provides_iff_needs, wrapped, properties, needs]
  have identifiers : HasIdentifiers model := by
    have meeting : IsIdentifier (Scope.meeting times).name := ⟨by decide, by decide⟩
    have time : IsIdentifier (Scope.timeOf times).name := ⟨by decide, by decide⟩
    constructor
    · simpa [classes] using meeting
    · simpa [classes, properties] using time
    · simp [classes, properties, Scope.timeOf]
    · simp [classes, properties, Scope.timeOf, parts]
  refine ⟨valid, rfl, equipped, provides, identifiers, ?_⟩
  have called := (equipped.provides_iff_called identifiers .arrayChanged).mp
    ((provides .arrayChanged).mpr rfl)
  simpa [wrapped, Helper.name] using called

end ClientGen.TypeScript

import ClientGen.Proofs.TypeScript.Modules
import ClientGen.Proofs.TypeScript.Noted

/-!
# How the modules of a split client are linked

A module mentions classes that it declares itself and classes that it imports. What a scope writes
for a shape is found in the table of classes, so the names that are mentioned are among those that
the modules of classes and wrappers declare, one for each class of the table and one for each class
with a wrapper. Controllers import the modules that were noted while their classes were written, and
every mention was. The modules of classes and wrappers come after those of the controllers, so that
nothing of their name replaces them.
-/

namespace ClientGen.TypeScript

open Code Scope

/-! ### Mentioned classes -/

/-- Whether a class is one of the table, under its own name where the plain classes are found, or
one with a wrapper, under the name of this where the wrappers are found. Words and gaps are no
classes. -/
def Scope.Finds (scope : Scope) (leaf : ClientType) : Prop :=
  ∀ home name, leaf = .named home name →
    home = scope.plainHome ∧ name ∈ scope.table.classes.map (·.name) ∨
      home = scope.wrapperHome ∧
        name ∈ (scope.table.classes.filter scope.hasWrapper).map (·.name ++ scope.wrapperSuffix)

theorem Scope.finds_plain {scope : Scope} {entry : ClassEntry ClassId}
    (present : entry ∈ scope.table.classes) : scope.Finds (.named scope.plainHome entry.name) := by
  rintro home name ⟨⟩
  exact .inl ⟨rfl, List.mem_map_of_mem present⟩

theorem Scope.mem_classes_of_classOf {scope : Scope} {shape : Shape ClassId}
    {entry : ClassEntry ClassId} (found : scope.classOf shape = .ok entry) :
    entry ∈ scope.table.classes := by
  unfold classOf at found
  cases checked : shape.checkedReference with
  | error failure =>
    rw [checked] at found
    cases found
  | ok reference =>
    rw [checked] at found
    cases reference with
    | none => cases found
    | some id =>
      cases stored : scope.table.at? id with
      | none => simp [bind, Except.bind, stored] at found
      | some other =>
        simp only [bind, Except.bind, stored, Except.ok.injEq] at found
        subst found
        exact ClassTable.mem_classes_iff.mpr ⟨id, stored⟩

/-- Whatever a scope writes for the class of a shape is found. -/
theorem Scope.finds_classType (scope : Scope) (live : Bool) (shape : Shape ClassId) :
    scope.Finds (scope.classType live shape) := by
  rw [classType_eq]
  split
  · next entry found =>
    have present := mem_classes_of_classOf found
    split
    · next isLive =>
      rw [Bool.and_eq_true] at isLive
      rintro home name ⟨⟩
      refine .inr ⟨rfl, List.mem_map.mpr ⟨entry, ?_, rfl⟩⟩
      exact List.mem_filter.mpr ⟨present, isLive.2⟩
    · exact finds_plain present
  · rintro home name ⟨⟩

theorem Scope.grants_finds (scope : Scope) (shape : Shape ClassId) :
    scope.Grants scope.Finds shape where
  words := by rintro name - home other ⟨⟩
  parts part _ :=
    { parameter := by rintro - name - home other ⟨⟩
      ownClass := fun _ live => scope.finds_classType live part }

/-- Whether a class is mentioned in a draft, at some place and under some name. -/
def Draft.Mentions (draft : Draft) (home : Home) (name : String) : Prop :=
  ∃ line ∈ draft.lines, ∃ type, .type type ∈ line ∧ .named home name ∈ type.leaves

/-- Whether a class is mentioned in a draft that is found where a dependency leads. -/
def Draft.MentionsOf (draft : Draft) (needed : Dependency) : Prop :=
  ∃ home name, home.isOf needed = true ∧ draft.Mentions home name

theorem Draft.Mentions.good {good : ClientType → Prop} {draft : Draft} {home : Home}
    {name : String} (mentioned : draft.Mentions home name) (made : AllMadeOf good draft.lines) :
    good (.named home name) := by
  rcases mentioned with ⟨line, among, type, inside, leaf⟩
  exact made line among type inside _ leaf

/-! ### Declared classes -/

/-- The words that a declaration of the client may start with. -/
def declarationWords : List String :=
  ["export interface ", "export const enum ", "export class "]

/-- The name that a line declares. -/
def Code.declared? : Code → Option String
  | .text word :: .text name :: _ => if word ∈ declarationWords then some name else none
  | _ => none

/-- The names that some lines declare. -/
def Code.declaredIn (lines : List Code) : List String :=
  lines.filterMap Code.declared?

section Declared

variable {lines others : List Code} {line : Code}

@[simp]
theorem declaredIn_nil : declaredIn [] = [] := rfl

@[simp]
theorem declaredIn_append : declaredIn (lines ++ others) = declaredIn lines ++ declaredIn others :=
  List.filterMap_append

theorem declaredIn_cons_of_none (silent : line.declared? = none) :
    declaredIn (line :: lines) = declaredIn lines :=
  List.filterMap_cons_none silent

theorem declaredIn_flatMap {α : Type} (items : List α) (group : α → List Code) :
    declaredIn (items.flatMap group) = items.flatMap fun item => declaredIn (group item) :=
  List.filterMap_flatMap

theorem declaredIn_eq_nil_iff : declaredIn lines = [] ↔ ∀ line ∈ lines, line.declared? = none :=
  List.filterMap_eq_nil_iff

/-- Only lines that start with certain words declare something. -/
theorem declared?_of_notMem {word : String} (other : word ∉ declarationWords) :
    Code.declared? (.text word :: line) = none := by
  unfold Code.declared?
  split
  · next same =>
    cases same
    exact if_neg other
  · rfl

@[simp]
theorem declared?_indent : line.indent.declared? = none :=
  declared?_of_notMem (by decide)

@[simp]
theorem declaredIn_map_indent : declaredIn (lines.map indent) = [] := by
  rw [declaredIn_eq_nil_iff, List.forall_mem_map]
  intro line _
  exact declared?_indent

@[simp]
theorem declaredIn_stack (groups : List (List Code)) :
    declaredIn (stack groups) = groups.flatMap declaredIn :=
  List.filterMap_flatten

@[simp]
theorem declaredIn_blank : declaredIn [[]] = [] := rfl

@[simp]
theorem declaredIn_comment {documentation : Option String} :
    declaredIn (Code.comment documentation) = [] := by
  unfold Code.comment
  split
  · split
    · rfl
    · exact declaredIn_cons_of_none (declared?_of_notMem (by decide))
  · rfl

@[simp]
theorem declaredIn_documented {documentation : Option String} :
    declaredIn (documented documentation line) = [] :=
  declaredIn_map_indent

theorem declaredIn_separated {groups : List (List Code)}
    (silent : ∀ group ∈ groups, declaredIn group = []) : declaredIn (separated groups) = [] := by
  induction groups with
  | nil => rfl
  | cons group groups ih =>
    rw [List.forall_mem_cons] at silent
    cases groups with
    | nil => exact silent.1
    | cons next groups =>
      simp only [separated, declaredIn_append, silent.1, List.nil_append]
      exact ih silent.2

theorem declaredIn_enumLines (values : List EnumValue) : declaredIn (enumLines values) = [] := by
  induction values with
  | nil => rfl
  | cons value values ih =>
    cases values with
    | nil => exact declaredIn_documented
    | cons next values =>
      simp only [enumLines, declaredIn_append, enumLines.enumMember, declaredIn_documented,
        List.nil_append]
      exact ih

variable {scope : Scope} {entry : ClassEntry ClassId}

theorem declaredIn_definition : declaredIn (scope.definition entry) = [entry.name] := by
  rw [definition_eq]
  split
  · next properties _ =>
    have body : declaredIn (separated (properties.map scope.property)) = [] := by
      apply declaredIn_separated
      rw [List.forall_mem_map]
      intro property _
      exact declaredIn_documented
    simp [body]
    rfl
  · simp [declaredIn_enumLines]
    rfl

theorem declaredIn_map_indent_unless_blank :
    declaredIn (lines.map fun line => if line.isEmpty then line else line.indent) = [] := by
  rw [declaredIn_eq_nil_iff, List.forall_mem_map]
  intro line _
  cases line with
  | nil => rfl
  | cons => exact declared?_indent

theorem declaredIn_fields (properties : List (ClassProperty ClassId)) :
    declaredIn (properties.flatMap fun property =>
      [] :: documented property.documentation (scope.field property)) = [] := by
  rw [declaredIn_flatMap, List.flatMap_eq_nil_iff]
  intro property _
  exact declaredIn_documented

theorem declaredIn_validity (properties : List (ClassProperty ClassId)) :
    declaredIn (validity properties) = [] := by
  rw [declaredIn_eq_nil_iff]
  rw [validity_eq]
  split
  · simp
  · simp only [List.forall_mem_cons]
    exact ⟨rfl, declared?_indent, by simp⟩

theorem declaredIn_wrapperClass : declaredIn (scope.wrapperClass entry) = [entry.name] := by
  rw [wrapperClass_eq]
  simp only [declaredIn_stack, List.flatMap_cons, List.flatMap_nil, declaredIn_comment,
    declaredIn_fields, declaredIn_map_indent_unless_blank, declaredIn_validity]
  rfl

end Declared

/-! ### Drafts -/

namespace Options

variable {options : Options} {model : ServiceModel ClassId} {controller : Controller ClassId}

theorem declaredIn_viewDraft :
    declaredIn (viewDraft model).lines = model.types.classes.map (·.name) := by
  rw [viewDraft, value_writeDefinitions, declaredIn_flatMap]
  simp only [declaredIn_definition]
  exact List.flatMap_pure_eq_map _ _

theorem declaredIn_provide (dependencies : Dependencies) :
    declaredIn (options.provide dependencies) = [] := by
  have imports (helper : Helper) : declaredIn (options.importHelper helper) = [] := by
    cases helper <;> rfl
  have declarations (helper : Helper) :
      declaredIn (helper.declaration.map fun line => [Fragment.text line]) = [] := by
    rw [declaredIn_eq_nil_iff, List.forall_mem_map]
    intro line _
    rfl
  simp [provide, declaredIn_flatMap, imports, declarations]

theorem declaredIn_wrapperDraft :
    declaredIn (options.wrapperDraft model).lines =
      (model.types.classes.filter (wrapperScope model).hasWrapper).map (·.name) := by
  have imports : declaredIn [header, importAs "ko" "knockout", importAs "views" "../views"] = [] :=
    rfl
  rw [wrapperDraft, value_writeWrapperClasses]
  simp only [declaredIn_stack, List.flatMap_cons, List.flatMap_nil, imports, declaredIn_provide,
    declaredIn_flatMap, declaredIn_wrapperClass, List.nil_append, List.append_nil]
  exact List.flatMap_pure_eq_map _ _

/-- What is known and chosen where the controllers of a split client are written. -/
def controllerWriter (options : Options) (model : ServiceModel ClassId) : ActionWriter :=
  ⟨options.controllerScope model, options.passing⟩

/-- What is noted while the class of a controller is written. -/
def noted (options : Options) (model : ServiceModel ClassId) (controller : Controller ClassId) :
    Dependencies :=
  ((options.controllerWriter model).writeController controller).needs

theorem mem_controllerDraft_of_mem_classLines {line : Code}
    (among : line ∈ options.classLines model controller) :
    line ∈ (options.controllerDraft model controller).lines := by
  simp only [controllerDraft, Code.stack, List.flatten_cons, List.mem_append]
  exact .inr (.inr (.inr (.inr (.inl among))))

/-- What a controller mentions is mentioned in its class. -/
theorem mentionsOf_iff {needed : Dependency} :
    (options.controllerDraft model controller).MentionsOf needed ↔
      (options.classLines model controller).any (dependsOn needed) = true := by
  constructor
  · rintro ⟨home, name, isOf, mentioned⟩
    -- Every leaf in the draft is one of the class, as imports have no types.
    have made : AllMadeOf (fun leaf => ∀ home name, leaf = .named home name →
        home.isOf needed = true →
          (options.classLines model controller).any (dependsOn needed) = true)
        (options.controllerDraft model controller).lines := by
      refine options.allMadeOf_controllerDraft ?_
      rintro line among type inside _ leaf home name rfl isOf
      refine List.any_eq_true.mpr ⟨line, among, List.any_eq_true.mpr ⟨.type type, inside, ?_⟩⟩
      exact ClientType.dependsOn_of_mem_leaves leaf isOf
    exact mentioned.good made home name rfl isOf
  · intro depends
    obtain ⟨line, among, dependsLine⟩ := List.any_eq_true.mp depends
    obtain ⟨fragment, inside, dependsFragment⟩ := List.any_eq_true.mp dependsLine
    cases fragment with
    | type type =>
      obtain ⟨home, name, leaf, isOf⟩ := ClientType.exists_leaf_of_dependsOn dependsFragment
      refine ⟨home, name, isOf, line, ?_, type, inside, leaf⟩
      exact mem_controllerDraft_of_mem_classLines among
    | helper called =>
      -- In the class of a controller no helper is called.
      obtain rfl := of_decide_eq_true dependsFragment
      rw [classLines, ActionWriter.any_calls_controllerClass] at depends
      cases depends
    | text | parameter => cases dependsFragment

/-- What is noted for a controller is what it mentions and what wrappers of payloads depend on. -/
theorem has_noted_iff {needed : Dependency} :
    (options.noted model controller).has needed = true ↔
      (options.controllerDraft model controller).MentionsOf needed ∨
        ∃ action ∈ controller.actions,
          (options.controllerWriter model).payloadDependsOn needed action = true := by
  have sited : (options.controllerWriter model).scope.IsSited :=
    options.isSited_controllerScope model
  rw [noted, ActionWriter.has_writeController sited, Bool.or_eq_true, mentionsOf_iff,
    List.any_eq_true (l := controller.actions)]
  rfl

theorem imports_views (noted : (options.noted model controller).has .views = true) :
    importAs "views" "./views" ∈ (options.controllerDraft model controller).lines := by
  have flag : ((options.controllerWriter model).writeController controller).needs.views = true :=
    noted
  rw [controllerWriter] at flag
  simp [controllerDraft, Code.stack, flag]

theorem imports_wrappers (noted : (options.noted model controller).has .wrappers = true) :
    importAs "koViews" "./ko/views" ∈ (options.controllerDraft model controller).lines := by
  have flag : ((options.controllerWriter model).writeController controller).needs.wrappers = true :=
    noted
  rw [controllerWriter] at flag
  simp [controllerDraft, Code.stack, flag]

theorem hasWrapper_controllerScope {entry : ClassEntry ClassId} :
    (options.controllerScope model).hasWrapper entry =
      (options.observable && (wrapperScope model).hasWrapper entry) := by
  simp [controllerScope, wrapperScope, hasWrapper, Bool.and_assoc]

/-- Whether a draft has a line that imports another one, which declares a name. -/
structure Imports (draft other : Draft) (line : Code) (name : String) : Prop where
  imported : line ∈ draft.lines
  declared : name ∈ declaredIn other.lines

theorem mentions_controllerDraft {home : Home} {name : String}
    (mentioned : (options.controllerDraft model controller).Mentions home name) :
    home = .views ∧ Imports (options.controllerDraft model controller) (viewDraft model)
        (importAs "views" "./views") name ∨
      home = .wrappers ∧ options.observable = true ∧
        Imports (options.controllerDraft model controller) (options.wrapperDraft model)
          (importAs "koViews" "./ko/views") name := by
  have made : AllMadeOf (options.controllerScope model).Finds
      (options.controllerDraft model controller).lines := by
    refine options.allMadeOf_controllerDraft (ActionWriter.allMadeOf_controllerClass ?_)
    intro action _ shape _
    exact Scope.grants_finds _ shape
  rcases mentioned.good made home name rfl with ⟨rfl, present⟩ | ⟨rfl, present⟩
  · have noted : (options.noted model controller).has .views = true :=
      has_noted_iff.mpr (.inl ⟨.views, name, rfl, mentioned⟩)
    refine .inl ⟨rfl, imports_views noted, ?_⟩
    rw [declaredIn_viewDraft]
    exact present
  · rcases List.mem_map.mp present with ⟨entry, kept, rfl⟩
    rcases List.mem_filter.mp kept with ⟨inTable, wrapped⟩
    rw [hasWrapper_controllerScope, Bool.and_eq_true] at wrapped
    have noted : (options.noted model controller).has .wrappers = true :=
      has_noted_iff.mpr (.inl ⟨.wrappers, _, rfl, mentioned⟩)
    refine .inr ⟨rfl, wrapped.1, imports_wrappers noted, ?_⟩
    rw [declaredIn_wrapperDraft]
    refine List.mem_map.mpr ⟨entry, ?_, String.append_empty.symm⟩
    exact List.mem_filter.mpr ⟨inTable, wrapped.2⟩

theorem mentions_viewDraft {home : Home} {name : String}
    (mentioned : (viewDraft model).Mentions home name) :
    home = .here ∧ name ∈ declaredIn (viewDraft model).lines := by
  have made : AllMadeOf (viewScope model).Finds (viewDraft model).lines := by
    rw [viewDraft, value_writeDefinitions]
    refine allMadeOf_definitions ?_
    intro entry _ property _
    exact Scope.grants_finds _ property.shape
  have noWrapper (entry : ClassEntry ClassId) : (viewScope model).hasWrapper entry = false := rfl
  rw [declaredIn_viewDraft]
  rcases mentioned.good made home name rfl with ⟨rfl, present⟩ | ⟨rfl, present⟩
  · exact ⟨rfl, present⟩
  · simp [noWrapper] at present

theorem mentions_wrapperDraft {home : Home} {name : String}
    (mentioned : (options.wrapperDraft model).Mentions home name) :
    home = .views ∧ Imports (options.wrapperDraft model) (viewDraft model)
        (importAs "views" "../views") name ∨
      home = .here ∧ name ∈ declaredIn (options.wrapperDraft model).lines := by
  have made : AllMadeOf (wrapperScope model).Finds (options.wrapperDraft model).lines := by
    refine options.allMadeOf_wrapperDraft ?_ ?_
    · intro entry present
      exact Scope.finds_plain present
    · intro entry _ property _
      exact Scope.grants_finds _ property.shape
  rcases mentioned.good made home name rfl with ⟨rfl, present⟩ | ⟨rfl, present⟩
  · refine .inl ⟨rfl, by simp [wrapperDraft, Code.stack], ?_⟩
    rw [declaredIn_viewDraft]
    exact present
  · rcases List.mem_map.mp present with ⟨entry, kept, rfl⟩
    rw [declaredIn_wrapperDraft]
    exact .inr ⟨rfl, List.mem_map.mpr ⟨entry, kept, String.append_empty.symm⟩⟩

theorem not_mentions_servicesDraft {home : Home} {name : String} :
    ¬(options.servicesDraft model).Mentions home name := by
  intro mentioned
  have made : AllMadeOf (fun _ => False) (options.servicesDraft model).lines :=
    options.allMadeOf_servicesDraft
  exact mentioned.good made

/-- Whether a split client is written in full and its modules find all classes that they mention. -/
structure Linked (options : Options) (model : ServiceModel ClassId) : Prop where
  written : (options.client model).failure = none
  /-- No module is anything but a draft that was finished. -/
  drafted : ∀ module ∈ (options.client model).modules,
    ∃ draft ∈ options.drafts model, finished draft = module
  views : Ordered.find? "views" (options.client model).modules =
    some (Code.spellLines (viewDraft model).lines)
  /-- Every class is declared once, in the order of the table. -/
  viewsDeclared : declaredIn (viewDraft model).lines = model.types.classes.map (·.name)
  wrappers : options.observable = true →
    Ordered.find? "ko/views" (options.client model).modules =
      some (Code.spellLines (options.wrapperDraft model).lines)
  wrappersDeclared : declaredIn (options.wrapperDraft model).lines =
    (model.types.classes.filter (wrapperScope model).hasWrapper).map (·.name)
  /-- What is noted for a controller is what it mentions and what wrappers of payloads depend on. -/
  noted : ∀ controller ∈ model.controllers, ∀ needed,
    (options.noted model controller).has needed = true ↔
      (options.controllerDraft model controller).MentionsOf needed ∨
        ∃ action ∈ controller.actions,
          (options.controllerWriter model).payloadDependsOn needed action = true
  /-- Controllers import the modules of all classes that they mention. -/
  ofControllers : ∀ controller ∈ model.controllers, ∀ home name,
    let draft := options.controllerDraft model controller
    draft.Mentions home name →
      home = .views ∧ Imports draft (viewDraft model) (importAs "views" "./views") name ∨
        home = .wrappers ∧ options.observable = true ∧
          Imports draft (options.wrapperDraft model) (importAs "koViews" "./ko/views") name
  /-- Plain classes mention each other only. -/
  ofViews : ∀ home name, (viewDraft model).Mentions home name →
    home = .here ∧ name ∈ declaredIn (viewDraft model).lines
  /-- Wrappers mention plain classes and each other. -/
  ofWrappers : ∀ home name,
    let draft := options.wrapperDraft model
    draft.Mentions home name →
      home = .views ∧ Imports draft (viewDraft model) (importAs "views" "../views") name ∨
        home = .here ∧ name ∈ declaredIn draft.lines
  ofServices : ∀ home name, ¬(options.servicesDraft model).Mentions home name

end Options

/-! ### Results -/

open Options

/-- The modules of a split client of a valid model are linked, whatever else is chosen about it. -/
theorem modules_linked (options : Options) (model : ServiceModel ClassId)
    (valid : model.validate = .ok ()) (isSplit : options.bundling = .split) :
    options.Linked model := by
  have client : options.client model = _ := modules_of_valid valid
  have drafts : options.drafts model = _ := drafts_of_split isSplit
  refine ⟨?_, ?_, ?_, declaredIn_viewDraft, ?_, declaredIn_wrapperDraft, ?_, ?_, ?_, ?_, ?_⟩
  · rw [client]
  · intro module stored
    rw [client] at stored
    exact List.mem_map.mp (Ordered.mem_of_mem_ofList stored)
  · -- A controller may have the name of this module, but its draft comes first and is replaced.
    rw [client, drafts, List.append_assoc, List.append_assoc, List.map_append]
    refine Ordered.find?_ofList_of_last ?_
    cases options.observable <;> simp [finished, wrapperDraft, servicesDraft]
  · intro isObservable
    rw [client, drafts, if_pos isObservable, List.append_assoc, List.map_append]
    refine Ordered.find?_ofList_of_last ?_
    simp [finished, servicesDraft]
  · intro controller _ needed
    exact has_noted_iff
  · intro controller _ home name draft
    exact mentions_controllerDraft
  · intro home name
    exact mentions_viewDraft
  · intro home name draft
    exact mentions_wrapperDraft
  · intro home name
    exact not_mentions_servicesDraft

theorem modules_linked_tree :
    let options : Options := { observable := true }
    treeModel.validate = .ok () ∧ options.bundling = .split ∧ options.Linked treeModel ∧
      declaredIn (options.wrapperDraft treeModel).lines = ["Tree"] := by
  intro options
  have valid : treeModel.validate = .ok () := by rfl
  have linked := modules_linked options treeModel valid rfl
  refine ⟨valid, rfl, linked, ?_⟩
  rw [linked.wrappersDeclared]
  rfl

end ClientGen.TypeScript

import ClientGen.Collections.Ordered
import ClientGen.TypeScript.Controller

/-!
# Clients

A client consists of modules. In a split client each controller has a module of its own, the classes
are in `views`, their wrappers in `ko/views`, and `services` brings the controllers together. In a
single client everything is in `services`. Controllers come in the order of their names.

Modules are drafted first. Drafts are finished one after the other, up to the first one with a gap
in the place of a class.
-/

namespace ClientGen.TypeScript

/-- A module that may still have gaps. -/
structure Draft where
  name : String
  lines : List Code

/-- Why there are gaps in a draft. -/
def Draft.failures (draft : Draft) : List Failure :=
  draft.lines.flatMap Code.failures

/-- The modules that were finished, and what kept the others from it. -/
structure Client where
  modules : List (String × String) := []
  failure : Option Failure := none

namespace Client

/-- Finishes drafts. A module replaces another one of its name. -/
def finish : List Draft → Client → Client
  | [], client => client
  | draft :: drafts, client =>
    match draft.failures.head? with
    | some failure => { client with failure := some failure }
    | none =>
      let modules := Ordered.insert draft.name (Code.spellLines draft.lines) client.modules
      finish drafts { client with modules }

end Client

/-- The first line of modules. -/
def header : Code :=
  ["/* This is a generated file. Do not modify or all the changes will be lost. */"]

/-- The line that imports a module under a name. -/
def importAs (name : String) (module : String) : Code :=
  ["import * as ", name, " from \"", module, "\";"]

/-- The names of modules that no controller may use. -/
def reservedModules : List String :=
  ["views", "services", "ko"]

/-- The module of a controller. -/
def moduleName (controller : Controller ClassId) : String :=
  let name := QualifiedName.camelCase controller.name
  if name ∈ reservedModules then name ++ "Controller" else name

/-- The declaration of a helper that is declared where it is needed. -/
def Helper.declaration : Helper → List String
  | .toDate =>
    ["", "function toDate(value: string | undefined) \x7b",
      "    return value ? new Date(value) : undefined;", "\x7d"]
  | .fromDate =>
    ["", "function fromDate(value: Date | undefined) \x7b",
      "    return value ? value.toISOString() : undefined;", "\x7d"]
  | .arrayChanged =>
    ["",
      "function arrayChanged<T>(array: KnockoutObservableArray<T>, " ++
        "original: T[] | undefined) \x7b",
      "    const values = array();",
      "    if (original == undefined) return values.length > 0;",
      "    return values.length !== original.length || " ++
        "values.some((x, i) => x !== original[i]);",
      "\x7d"]
  | .dateArrayChanged =>
    ["",
      "function dateArrayChanged(array: KnockoutObservableArray<Date>, " ++
        "original: string[] | undefined) \x7b",
      "    const values = array();",
      "    if (original == undefined) return values.length > 0;",
      "    return values.length !== original.length || " ++
        "values.some((x, i) => x.toISOString() !== original[i]);",
      "\x7d"]
  | .validation | .loading => []

/-- The line that imports a helper from another module. -/
def Options.importHelper (options : Options) : Helper → List Code
  | .validation => [importAs "validation" options.validationModule]
  | .loading => [["import \x7b loading \x7d from \"", options.helpersModule, "\";"]]
  | _ => []

/-- The helpers in the order in which they are brought into a module. -/
def Helper.all : List Helper :=
  [.validation, .loading, .toDate, .fromDate, .arrayChanged, .dateArrayChanged]

/-- Brings the helpers into a module that its code needs. -/
def Options.provide (options : Options) (dependencies : Dependencies) : List Code :=
  let needed := Helper.all.filter fun helper => dependencies.has (.helper helper)
  Code.stack
    [needed.flatMap options.importHelper,
      needed.flatMap fun helper => helper.declaration.map fun line => [Fragment.text line]]

/-- The function that creates all controllers. `classOf` is the class of a controller. -/
def factory (controllers : List (Controller ClassId)) (classOf : Controller ClassId → String) :
    List Code :=
  Code.stack
    [[["export function createServices(client: helpers.ApiClient) \x7b"], ["    return \x7b"]],
      controllers.map fun controller =>
        ["        ", QualifiedName.camelCase controller.name, ": new ", classOf controller,
          "(client),"],
      [["    \x7d;"], ["\x7d"]]]

/-- The controllers of a model in the order of their names. -/
def orderedControllers (model : ServiceModel ClassId) : List (Controller ClassId) :=
  model.controllers.mergeSort fun a b => decide (a.name ≤ b.name)

namespace Options

variable (options : Options) (model : ServiceModel ClassId)

/-- What the controllers of a split client know about classes. -/
def controllerScope : Scope :=
  ⟨model.types, options.observable, .views, .wrappers, ""⟩

/-- What the module of plain classes knows about them. -/
def viewScope : Scope :=
  ⟨model.types, false, .here, .here, ""⟩

/-- What the module of wrappers knows about classes. -/
def wrapperScope : Scope :=
  ⟨model.types, true, .views, .here, ""⟩

/-- What the only module of a single client knows about classes. -/
def singleScope : Scope :=
  ⟨model.types, options.observable, .here, .here, "Observable"⟩

/-- The module of a controller. It imports the modules that its code needs. -/
def controllerDraft (controller : Controller ClassId) : Draft :=
  let writer : ActionWriter := ⟨options.controllerScope model, options.passing⟩
  let written := writer.writeController controller
  { name := moduleName controller
    lines := Code.stack
      [[header, importAs "helpers" options.helpersModule],
        if written.needs.views then [importAs "views" "./views"] else [],
        if written.needs.wrappers then [importAs "koViews" "./ko/views"] else [],
        [[]], written.value] }

/-- The module of plain classes. -/
def viewDraft : Draft :=
  { name := "views"
    lines := (viewScope model).writeDefinitions.value }

/-- The module of wrappers. -/
def wrapperDraft : Draft :=
  let written := (wrapperScope model).writeWrapperClasses
  { name := "ko/views"
    lines := Code.stack
      [[header, importAs "ko" "knockout", importAs "views" "../views"],
        options.provide written.needs, written.value] }

/-- The name under which the module of a controller is imported. -/
def groupName (controller : Controller ClassId) : String :=
  QualifiedName.camelCase controller.name ++ "Group"

/-- The module that brings the controllers of a split client together. -/
def servicesDraft : Draft :=
  let controllers := orderedControllers model
  { name := "services"
    lines := Code.stack
      [[header, importAs "helpers" options.helpersModule],
        controllers.map fun controller =>
          importAs (groupName controller) ("./" ++ moduleName controller),
        [["export * from \"./views\";"], []],
        factory controllers fun controller =>
          groupName controller ++ "." ++ controller.name ++ "Controller"] }

/-- Writes all code of a single client. -/
def writeSingle : Writing (List Code) := do
  let scope := options.singleScope model
  let writer : ActionWriter := ⟨scope, options.passing⟩
  let controllers := orderedControllers model
  let definitions ← scope.writeDefinitions
  let wrappers ← scope.writeWrapperClasses
  let classes ← Writing.each writer.writeController controllers
  return Code.stack
    [definitions, wrappers, [[]], classes.flatten,
      factory controllers fun controller => controller.name ++ "Controller"]

theorem value_writeSingle : (options.writeSingle model).value =
    Code.stack
      [model.types.classes.flatMap (options.singleScope model).definition,
        (model.types.classes.filter (options.singleScope model).hasWrapper).flatMap
          (options.singleScope model).wrapperClass,
        [[]],
        (orderedControllers model).flatMap
          (ActionWriter.controllerClass ⟨options.singleScope model, options.passing⟩),
        factory (orderedControllers model) fun controller => controller.name ++ "Controller"] := by
  simp only [writeSingle, Writing.value_bind, Writing.value_each, Writing.value_pure,
    Scope.value_writeDefinitions, Scope.value_writeWrapperClasses, List.flatMap_def]
  rfl

/-- The only module of a single client. -/
def singleDraft : Draft :=
  let written := options.writeSingle model
  { name := "services"
    lines := Code.stack
      [[header, importAs "helpers" options.helpersModule],
        if model.types.classes.any (options.singleScope model).hasWrapper then
          importAs "ko" "knockout" :: options.provide written.needs
        else [],
        written.value] }

/-- The drafts of a client in the order in which they are finished. -/
def drafts : List Draft :=
  match options.bundling with
  | .single => [options.singleDraft model]
  | .split =>
    (orderedControllers model).map (options.controllerDraft model) ++ [viewDraft model] ++
      (if options.observable then [options.wrapperDraft model] else []) ++
      [options.servicesDraft model]

/-- The client of a service. -/
def client : Client :=
  Client.finish (options.drafts model) {}

end Options

end ClientGen.TypeScript

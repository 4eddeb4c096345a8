import ClientGen.Proofs.Discovery.Survey
import ClientGen.Proofs.TypeScript.Client
import Mathlib.Data.List.Nodup

/-!
# The modules of a split client

In a split client a controller has a module under a name that comes from its own: the last segment
of the qualified name, with the first letter in lower case. So two controllers may want the same
name. A controller whose name is kept for a generated module moves aside, to a name that another one
may have already. A module replaces another one of its name, and nothing is said about it; here is
exactly when that does not happen.
-/

namespace ClientGen.TypeScript

/-! ### Names of modules -/

/-- The name under which the factory of a client gives a controller. -/
def serviceName (controller : Controller ClassId) : String :=
  QualifiedName.camelCase controller.name

/-- A name that is not kept for a generated module. -/
def unreserved (name : String) : String :=
  if name ∈ reservedModules then name ++ "Controller" else name

theorem append_controller_notMem {name : String} (isReserved : name ∈ reservedModules) :
    name ++ "Controller" ∉ reservedModules := by
  have apart : ∀ name ∈ reservedModules, name ++ "Controller" ∉ reservedModules := by decide
  exact apart name isReserved

theorem unreserved_notMem (name : String) : unreserved name ∉ reservedModules := by
  unfold unreserved
  split
  · next isReserved => exact append_controller_notMem isReserved
  · next isFree => exact isFree

theorem unreserved_of_mem {name : String} (isReserved : name ∈ reservedModules) :
    unreserved name = name ++ "Controller" ∧
      unreserved (name ++ "Controller") = name ++ "Controller" :=
  ⟨if_pos isReserved, if_neg (append_controller_notMem isReserved)⟩

/-- Names that are different come to the same only if one is reserved and moves to the other. -/
theorem unreserved_cases {first second : String} (same : unreserved first = unreserved second) :
    first = second ∨ (first ∈ reservedModules ∧ second = first ++ "Controller") ∨
      second ∈ reservedModules ∧ first = second ++ "Controller" := by
  unfold unreserved at same
  split at same <;> split at same
  · exact .inl ((String.append_left_inj _).mp same)
  · next isReserved _ => exact .inr (.inl ⟨isReserved, same.symm⟩)
  · next isReserved => exact .inr (.inr ⟨isReserved, same⟩)
  · exact .inl same

theorem nodup_map_unreserved_iff {names : List String} :
    (names.map unreserved).Nodup ↔
      names.Nodup ∧ ∀ name ∈ reservedModules, name ∈ names → name ++ "Controller" ∉ names := by
  constructor
  · intro distinct
    refine ⟨.of_map _ distinct, ?_⟩
    intro name isReserved among amongToo
    have moved := unreserved_of_mem isReserved
    have same : name = name ++ "Controller" :=
      List.inj_on_of_nodup_map distinct among amongToo (moved.1.trans moved.2.symm)
    have apart := append_controller_notMem isReserved
    rw [← same] at apart
    exact apart isReserved
  · rintro ⟨distinct, noneMoves⟩
    refine distinct.map_on ?_
    intro first isFirst second isSecond same
    rcases unreserved_cases same with equal | ⟨isReserved, rfl⟩ | ⟨isReserved, rfl⟩
    · exact equal
    · exact (noneMoves first isReserved isFirst isSecond).elim
    · exact (noneMoves second isReserved isSecond isFirst).elim

theorem unreserved_eq_wrappers_iff {name : String} :
    unreserved name = "ko/views" ↔ name = "ko/views" := by
  have apart : ∀ name ∈ reservedModules, name ++ "Controller" ≠ "ko/views" := by decide
  have free : "ko/views" ∉ reservedModules := by decide
  unfold unreserved
  split
  · next isReserved =>
    refine ⟨fun same => (apart name isReserved same).elim, ?_⟩
    rintro rfl
    exact (free isReserved).elim
  · rfl

/-- The imports of controllers are as different as their names in the factory. -/
theorem nodup_map_groupName_iff {controllers : List (Controller ClassId)} :
    (controllers.map Options.groupName).Nodup ↔ (controllers.map serviceName).Nodup := by
  have appended : Options.groupName = (· ++ "Group") ∘ serviceName := rfl
  have injective : Function.Injective (· ++ "Group" : String → String) :=
    fun _ _ same => (String.append_left_inj _).mp same
  rw [appended, ← List.map_map, List.nodup_map_iff injective]

/-! ### Drafts and modules -/

theorem spellLines_append (lines others : List Code) :
    Code.spellLines (lines ++ others) = Code.spellLines lines ++ Code.spellLines others := by
  rw [Code.spellLines, List.map_append, String.join_append]
  rfl

namespace Options

variable {options : Options} {model : ServiceModel ClassId}

/-- The name of a draft and the text of the module that becomes of it. -/
def finished (draft : Draft) : String × String :=
  (draft.name, Code.spellLines draft.lines)

theorem orderedControllers_perm (model : ServiceModel ClassId) :
    (orderedControllers model).Perm model.controllers :=
  List.mergeSort_perm _ _

/-- The modules of a valid model are the finished drafts, of which the last one counts for every
name. -/
theorem modules_of_valid (valid : model.validate = .ok ()) :
    options.client model =
      { modules := Ordered.ofList ((options.drafts model).map finished), failure := none } := by
  rw [client, finish_of_whole (options.failures_of_mem_drafts valid), Ordered.ofList,
    Ordered.insertAll, List.foldl_map]
  rfl

theorem drafts_of_split (isSplit : options.bundling = .split) :
    options.drafts model =
      (orderedControllers model).map (options.controllerDraft model) ++ [viewDraft model] ++
        (if options.observable then [options.wrapperDraft model] else []) ++
        [options.servicesDraft model] := by
  rw [drafts, isSplit]

theorem names_drafts (isSplit : options.bundling = .split) :
    ((options.drafts model).map finished).map (·.1) =
      (orderedControllers model).map moduleName ++
        ("views" :: if options.observable then ["ko/views", "services"] else ["services"]) := by
  have sameNames : (·.1) ∘ finished = Draft.name := rfl
  have ofController : Draft.name ∘ options.controllerDraft model = moduleName := rfl
  rw [drafts_of_split isSplit, List.map_map, sameNames, List.map_append, List.map_append,
    List.map_append, List.map_map, ofController]
  cases options.observable <;> simp [viewDraft, wrapperDraft, servicesDraft]

/-- What names controllers have to have so that no module of a split client is replaced. -/
structure NamesApart (options : Options) (names : List String) : Prop where
  distinct : names.Nodup
  noneMoves : ∀ name ∈ reservedModules, name ∈ names → name ++ "Controller" ∉ names
  noWrappers : options.observable = true → "ko/views" ∉ names

theorem NamesApart.of_perm {names others : List String} (perm : names.Perm others)
    (apart : options.NamesApart names) : options.NamesApart others where
  distinct := perm.nodup_iff.mp apart.distinct
  noneMoves name isReserved among amongToo :=
    apart.noneMoves name isReserved (perm.mem_iff.mpr among) (perm.mem_iff.mpr amongToo)
  noWrappers isObservable among := apart.noWrappers isObservable (perm.mem_iff.mpr among)

theorem namesApart_iff {names : List String} :
    options.NamesApart names ↔
      (names.map unreserved).Nodup ∧
        (options.observable = true → "ko/views" ∉ names.map unreserved) := by
  have sameNames : "ko/views" ∈ names.map unreserved ↔ "ko/views" ∈ names := by
    simp [List.mem_map, unreserved_eq_wrappers_iff]
  rw [nodup_map_unreserved_iff, sameNames]
  exact ⟨fun apart => ⟨⟨apart.distinct, apart.noneMoves⟩, apart.noWrappers⟩,
    fun given => ⟨given.1.1, given.1.2, given.2⟩⟩

theorem nodup_append_generated_iff {names : List String} (views : "views" ∉ names)
    (services : "services" ∉ names) {observable : Bool} :
    (names ++ ("views" :: if observable then ["ko/views", "services"] else ["services"])).Nodup ↔
      names.Nodup ∧ (observable = true → "ko/views" ∉ names) := by
  rw [List.nodup_append_comm]
  cases observable with
  | false => simp [views, services]
  | true => simp [views, services, and_comm]

theorem nodup_names_drafts_iff (isSplit : options.bundling = .split) :
    (((options.drafts model).map finished).map (·.1)).Nodup ↔
      options.NamesApart ((orderedControllers model).map serviceName) := by
  have unfolded : (orderedControllers model).map moduleName =
      ((orderedControllers model).map serviceName).map unreserved := by
    rw [List.map_map]
    rfl
  have free (name : String) (isReserved : name ∈ reservedModules) :
      name ∉ ((orderedControllers model).map serviceName).map unreserved := by
    intro among
    rcases List.mem_map.mp among with ⟨other, -, rfl⟩
    exact unreserved_notMem other isReserved
  rw [names_drafts isSplit, unfolded, namesApart_iff,
    nodup_append_generated_iff (free _ (by decide)) (free _ (by decide))]

/-- The class of a controller in a split client. -/
def classLines (options : Options) (model : ServiceModel ClassId)
    (controller : Controller ClassId) : List Code :=
  ActionWriter.controllerClass ⟨options.controllerScope model, options.passing⟩ controller

/-- The module of a controller ends with its class. -/
theorem exists_finished_controllerDraft (options : Options) (model : ServiceModel ClassId)
    (controller : Controller ClassId) :
    ∃ imports, finished (options.controllerDraft model controller) = (moduleName controller,
      imports ++ Code.spellLines (options.classLines model controller)) := by
  have split : ∃ before, (options.controllerDraft model controller).lines =
      before ++ options.classLines model controller := by
    simp only [controllerDraft, Code.stack, List.flatten_cons, List.flatten_nil, List.append_nil,
      ← List.append_assoc]
    exact ⟨_, rfl⟩
  rcases split with ⟨before, split⟩
  refine ⟨Code.spellLines before, ?_⟩
  rw [finished, split, spellLines_append]
  rfl

end Options

/-! ### Results -/

open Options

/-- The modules of a split client for the controllers of a survey. They are all written, and none
for a controller has the name of a generated module, unless the controller is called like the module
of wrappers. No module is replaced exactly if the names of the controllers are distinct, none of
them is where another one moves to, and none is that of a module of wrappers that is written; and
then every controller has a module of its own that holds its class. The names by which controllers
are imported, and those in the factory, are distinct if the names of the controllers are. -/
theorem modules_of_split (server : Server) (declarations : List Declaration) (options : Options)
    (isSplit : options.bundling = .split) :
    let model := (Survey.ofControllers server declarations).model
    let controllers := orderedControllers model
    let names := controllers.map serviceName
    let client := options.client model
    client.failure = none ∧
      (∀ controller ∈ controllers, moduleName controller ∉ reservedModules ∧
        (moduleName controller = "ko/views" ↔ serviceName controller = "ko/views")) ∧
      (client.modules = (options.drafts model).map finished ↔ options.NamesApart names) ∧
      (options.NamesApart names → (controllers.map moduleName).Nodup ∧
        ∀ controller ∈ controllers, ∃ imports, (moduleName controller, imports ++
          Code.spellLines (options.classLines model controller)) ∈ client.modules) ∧
      ((controllers.map groupName).Nodup ↔ names.Nodup) := by
  intro model controllers names client
  have valid : model.validate = .ok () := (Survey.sound_ofControllers server declarations).validate
  have finishedClient : client = _ := modules_of_valid valid
  have allKept : client.modules = (options.drafts model).map finished ↔
      options.NamesApart names := by
    rw [finishedClient, Ordered.ofList_eq_self_iff]
    exact nodup_names_drafts_iff isSplit
  refine ⟨by rw [finishedClient], ?_, allKept, ?_, nodup_map_groupName_iff⟩
  · intro controller _
    exact ⟨unreserved_notMem _, unreserved_eq_wrappers_iff⟩
  · intro apart
    refine ⟨?_, ?_⟩
    · have distinct := (namesApart_iff.mp apart).1
      rw [List.map_map] at distinct
      exact distinct
    · intro controller present
      rcases options.exists_finished_controllerDraft model controller with ⟨imports, whole⟩
      refine ⟨imports, ?_⟩
      have drafted : options.controllerDraft model controller ∈ options.drafts model := by
        rw [drafts_of_split isSplit, List.append_assoc, List.append_assoc]
        exact List.mem_append_left _ (List.mem_map_of_mem present)
      rw [allKept.mpr apart, ← whole]
      exact List.mem_map_of_mem drafted

/-- A server without classes. -/
def shopServer : Server where
  catalog := Catalog.empty
  convention := .mvc

/-- A controller with the name of a generated module. -/
def viewsController : Declaration where
  name := "Shop.ViewsController"
  methods := [{ name := "Get", attributes := [.httpGet none] }]

/-- A controller of users. -/
def adminUserController : Declaration where
  name := "Shop.Admin.UserController"
  methods := [{ name := "Get", attributes := [.httpGet none] }]

/-- Another controller of users. -/
def publicUserController : Declaration where
  name := "Shop.Public.UserController"
  methods := [{ name := "Put", attributes := [.httpPut none] }]

theorem modules_of_shop :
    let model := (Survey.ofControllers shopServer [viewsController, publicUserController]).model
    let options : Options := { observable := true }
    options.bundling = .split ∧
      (options.client model).modules = (options.drafts model).map finished := by
  intro model options
  have read : model.controllers.map serviceName = ["views", "user"] := by decide +kernel
  have apart : options.NamesApart ["views", "user"] := ⟨by decide, by decide, by decide⟩
  rw [← read] at apart
  have perm := (orderedControllers_perm model).symm.map serviceName
  exact ⟨rfl, (modules_of_split shopServer [viewsController, publicUserController] options
    rfl).2.2.1.mpr (apart.of_perm perm)⟩

/-- One evaluation tells how the controllers are read. -/
theorem users_read :
    let model := (Survey.ofControllers shopServer [adminUserController, publicUserController]).model
    model.controllers.map moduleName = ["user", "user"] ∧
      model.controllers.map groupName = ["userGroup", "userGroup"] ∧
      ∃ first ∈ model.controllers, ∃ second ∈ model.controllers,
        moduleName first = moduleName second ∧
          (finished (({} : Options).controllerDraft model first)).2 ≠
            (finished (({} : Options).controllerDraft model second)).2 := by
  decide +kernel

/-- Two controllers of users share the name of their module, so that one of the modules is missing,
and the name under which they are imported. -/
theorem user_missing :
    let model := (Survey.ofControllers shopServer [adminUserController, publicUserController]).model
    let options : Options := {}
    options.bundling = .split ∧
      ¬((orderedControllers model).map moduleName).Nodup ∧
      ¬((orderedControllers model).map groupName).Nodup ∧
      ∃ controller ∈ model.controllers,
        finished (options.controllerDraft model controller) ∉ (options.client model).modules := by
  intro model options
  have perm := orderedControllers_perm model
  rcases users_read with ⟨modules, groups, first, isFirst, second, isSecond, shared, different⟩
  refine ⟨rfl, ?_, ?_, ?_⟩
  · rw [(perm.map moduleName).nodup_iff, modules]
    decide
  · rw [(perm.map groupName).nodup_iff, groups]
    decide
  · by_contra kept
    push Not at kept
    have valid := (Survey.sound_ofControllers shopServer
      [adminUserController, publicUserController]).validate
    have distinct : ((options.client model).modules.map (·.1)).Nodup := by
      rw [modules_of_valid valid]
      exact Ordered.nodup_keys_insertAll List.nodup_nil
    have same : (options.controllerDraft model first).name =
        (options.controllerDraft model second).name := shared
    have firstFound := Ordered.find?_of_mem distinct (kept first isFirst)
    have secondFound := Ordered.find?_of_mem distinct (kept second isSecond)
    rw [same, secondFound, Option.some.injEq] at firstFound
    exact different firstFound.symm

end ClientGen.TypeScript

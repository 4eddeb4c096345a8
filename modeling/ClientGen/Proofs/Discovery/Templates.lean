import ClientGen.Proofs.Discovery.Binding
import ClientGen.Proofs.Route.Template

/-!
# Parameters and the templates of a route

The placeholders of the templates that an action has its route from are those of the route. They
alone decide which parameters belong to the path and which of these are required: of placeholders
that are the same in lower case the last one counts.
-/

namespace ClientGen

open Route (Template IsPlainName)

/-- Whether a parameter is bound as the placeholders of a route demand. -/
structure Parameter.BoundBy {ρ : Type} (placeholders : List Route.Placeholder)
    (parameter : Parameter) (bound : ActionParameter ρ) : Prop where
  name : bound.name = parameter.name
  path : bound.position = .path ↔
    ∃ placeholder ∈ placeholders, Text.lower placeholder.name = Text.lower parameter.name
  required : ∀ before last after, placeholders = before ++ last :: after →
    Text.lower last.name = Text.lower parameter.name →
    (∀ other ∈ after, Text.lower other.name ≠ Text.lower parameter.name) →
      bound.isRequired = !last.isOptional

theorem Route.find?_bindings_of_last {route : String} {before after : List Placeholder}
    {last : Placeholder} (whole : placeholders route = before ++ last :: after)
    (others : ∀ other ∈ after, Text.lower other.name ≠ Text.lower last.name) :
    Ordered.find? (Text.lower last.name) (bindings route) = some last.isOptional := by
  rw [bindings, whole, List.map_append, List.map_cons]
  apply Ordered.find?_ofList_of_last
  intro among
  simp only [List.map_map, List.mem_map, Function.comp_apply] at among
  rcases among with ⟨other, isAfter, same⟩
  exact others other isAfter same

namespace Server

variable {server : Server} {version : Option String} {doc : Option MemberDoc}
  {discovery : Discovery} {route : String}

theorem bind_of_find? {ρ : Type} {bindings : List (String × Bool)} {parameter : Parameter}
    {isOptional : Bool}
    (found : Ordered.find? (Text.lower parameter.name) bindings = some isOptional)
    (shape : Shape ρ) : server.bind bindings parameter shape = (.path, !isOptional) := by
  simp only [bind, found]

theorem boundBy_readParameter (parameter : Parameter) :
    parameter.BoundBy (Route.placeholders route)
      (server.readParameter version (Route.bindings route) doc parameter discovery).1 where
  name := rfl
  path := by
    rw [← Route.isSome_bindings_iff]
    exact bind_eq_path_iff
  required := by
    intro before last after whole same others
    rw [← same] at others
    have found := Route.find?_bindings_of_last whole others
    rw [same] at found
    exact congrArg Prod.snd (bind_of_find? found _)

theorem boundBy_readParameters (parameters : List Parameter) :
    List.Forall₂ (Parameter.BoundBy (Route.placeholders route)) parameters
      (server.readParameters version (Route.bindings route) doc parameters discovery).1 := by
  induction parameters generalizing discovery with
  | nil => exact .nil
  | cons parameter parameters ih =>
    rw [readParameters]
    exact .cons (boundBy_readParameter parameter) ih

/-- The action of a method that has an endpoint, with its parameters bound by its route. -/
theorem exists_readAction? (server : Server) (context : ControllerContext)
    (declaring : Declaration) (discovery : Discovery) {method : Method} {verb : Verb}
    {fragment : String} (isAction : endpoint? method = some (verb, fragment)) :
    ∃ action later,
      server.readAction? context declaring method discovery = some (action, later) ∧
        action.route = Route.normalize context.routeStem fragment context.name method.name ∧
        List.Forall₂ (Parameter.BoundBy (Route.placeholders action.route)) method.parameters
          action.parameters := by
  rw [readAction?, isAction]
  exact ⟨_, _, rfl, rfl, boundBy_readParameters method.parameters⟩

/-- The route of an action is made from the prefix of its controller and from its own fragment part
by part, if braces and brackets stand nowhere in these but around placeholders and tokens, and
nowhere in the names of the controller and the action. Literal characters stay, the tokens give way
to the names, and each placeholder comes into its plain form. A parameter goes into the path exactly
if its name is that of a placeholder in lower case, and then it is required unless the last such
placeholder is optional, whatever is known about its own values. -/
theorem route_of_templates (stem : Option Template) (fragment : Template)
    {controller action : String} (plainController : IsPlainName controller)
    (plainAction : IsPlainName action) :
    Route.normalize (stem.map Template.text) fragment.text controller action =
        (Template.join stem fragment).route controller action ∧
      ∀ (server : Server) (authorization : Option Authorization) (declaring : Declaration)
        (method : Method) (verb : Verb) (discovery : Discovery), method.name = action →
        endpoint? method = some (verb, fragment.text) →
        ∃ read later,
          server.readAction? ⟨controller, stem.map Template.text, authorization⟩ declaring method
              discovery = some (read, later) ∧
            read.route = (Template.join stem fragment).route controller action ∧
            List.Forall₂ (Parameter.BoundBy (Template.join stem fragment).placeholders)
              method.parameters read.parameters := by
  have route := Route.normalize_of_templates stem fragment plainController action
  refine ⟨route, ?_⟩
  intro server authorization declaring method verb discovery named isAction
  rcases server.exists_readAction? ⟨controller, stem.map Template.text, authorization⟩ declaring
    discovery isAction with ⟨read, later, isRead, made, bound⟩
  rw [named] at made
  replace made := made.trans route
  rw [made, Route.placeholders_route plainController plainAction] at bound
  exact ⟨read, later, isRead, made, bound⟩

/-- A prefix with a slash at its end. -/
def itemsStem : Template :=
  Template.literals "api/" (by decide) ++ .controller :: Template.literals "/" (by decide)

/-- A placeholder with constraints. -/
def idSlot : Route.Slot where
  stars := 0
  placeholder := ⟨"id", false⟩
  constraints := ["int", "min(1)"]
  proper := ⟨by decide, List.all_eq_true.mp (by decide)⟩
  lawful := by decide

/-- An optional placeholder of the same name in capitals. -/
def capitalIdSlot : Route.Slot where
  stars := 2
  placeholder := ⟨"ID", true⟩
  constraints := ["alpha"]
  proper := ⟨by decide, List.all_eq_true.mp (by decide)⟩
  lawful := by decide

/-- A fragment with both placeholders. -/
def itemsFragment : Template :=
  .slot idSlot :: (Template.literals "/" (by decide) ++
    .action :: (Template.literals "/" (by decide) ++ [.slot capitalIdSlot]))

/-- An action with a parameter of that name. -/
def findItem : Method where
  name := "Find"
  attributes := [.httpGet (some itemsFragment.text)]
  parameters := [{ name := "Id", type := .ofName "int" }]

theorem route_of_templates_items :
    itemsStem.text = "api/[controller]/" ∧
      itemsFragment.text = "\x7bid:int:min(1)\x7d/[action]/\x7b**ID:alpha?\x7d" ∧
      IsPlainName "Items" ∧ IsPlainName "Find" ∧
      endpoint? findItem = some (.get, itemsFragment.text) ∧
      Route.normalize (some itemsStem.text) itemsFragment.text "Items" "Find" =
        "api/Items/\x7bid\x7d/Find/\x7bID?\x7d" ∧
      ∃ read later,
        Server.readAction? ⟨.empty, .mvc, {}⟩ ⟨"Items", some itemsStem.text, none⟩ {} findItem {} =
            some (read, later) ∧
          read.parameters.map (fun parameter => (parameter.position, parameter.isRequired)) =
            [(.path, false)] := by
  have plain : IsPlainName "Items" ∧ IsPlainName "Find" := by decide
  have isAction : endpoint? findItem = some (.get, itemsFragment.text) := rfl
  have whole := route_of_templates (some itemsStem) itemsFragment plain.1 plain.2
  rcases whole.2 ⟨.empty, .mvc, {}⟩ none {} findItem .get {} rfl isAction with
    ⟨read, later, isRead, -, bound⟩
  refine ⟨rfl, rfl, plain.1, plain.2, isAction, whole.1, read, later, isRead, ?_⟩
  have same : Text.lower "ID" = Text.lower "Id" := by decide
  generalize read.parameters = parameters at bound
  cases bound with
  | @cons _ first _ _ bound others =>
    cases others
    have inPath : first.position = .path :=
      bound.path.mpr ⟨⟨"ID", true⟩, List.mem_cons_of_mem _ List.mem_cons_self, same⟩
    have isOptional : first.isRequired = false :=
      bound.required [⟨"id", false⟩] ⟨"ID", true⟩ [] rfl same (List.forall_mem_nil _)
    rw [List.map_singleton, inPath, isOptional]

end Server

end ClientGen

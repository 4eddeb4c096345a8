import ClientGen.Proofs.Text.Digit
import ClientGen.TypeScript.Controller
import Mathlib.Data.List.DropRight
import Mathlib.Data.List.Nodup
import Mathlib.Data.String.Basic

/-!
# Names of actions

The actions of a controller are sorted by their names, so those that share a name stand side by
side, and the number of an action is how many actions of its name stand before it. Numbers keep the
actions of one name apart, and so does the lower case of the first letter. Nothing keeps a numbered
name apart from another action's own name, or two names that differ in the case of their first
letter only.
-/

namespace ClientGen

open TypeScript

variable {ρ : Type} {name : String} {action : Action ρ} {actions whole : List (Action ρ)}

/-- How many of some actions have a name. -/
def nameCount (name : String) (actions : List (Action ρ)) : Nat :=
  (actions.filter (·.name == name)).length

/-- The name for the client of an action among others, when some of its name stand before it. -/
def clientName (whole : List (Action ρ)) (name : String) (before : Nat) : String :=
  if 1 < nameCount name whole then name ++ toString (before + 1) else name

/-- The actions of a controller in the order in which they are numbered. -/
def Controller.ordered (controller : Controller ρ) : List (Action ρ) :=
  controller.actions.mergeSort Action.precedes

/-- The names for the client of the actions of one name. -/
def Controller.clientNames (controller : Controller ρ) (name : String) : List String :=
  (List.range (nameCount name controller.actions)).map (clientName controller.actions name)

/-- The names of the functions in the class of a controller. -/
def Controller.memberNames (controller : Controller ρ) : List String :=
  controller.uniqueNames.map fun named => QualifiedName.camelCase named.1

/-! ### Counting names -/

@[simp]
theorem nameCount_nil : nameCount name ([] : List (Action ρ)) = 0 := rfl

@[simp]
theorem nameCount_append (before after : List (Action ρ)) :
    nameCount name (before ++ after) = nameCount name before + nameCount name after := by
  simp [nameCount]

theorem nameCount_cons :
    nameCount name (action :: actions) =
      (if action.name = name then 1 else 0) + nameCount name actions := by
  by_cases same : action.name = name <;> simp [nameCount, same, Nat.add_comm]

theorem nameCount_eq_zero_iff : nameCount name actions = 0 ↔ ∀ a ∈ actions, a.name ≠ name := by
  simp [nameCount]

/-- Every number below the number of actions of a name is the number of one of them. -/
theorem exists_place_of_lt_nameCount {before : Nat} (less : before < nameCount name actions) :
    ∃ (place : Nat) (action : Action ρ), actions[place]? = some action ∧ action.name = name ∧
      nameCount name (actions.take place) = before := by
  induction actions generalizing before with
  | nil => simp at less
  | cons action actions ih =>
    by_cases same : action.name = name
    · cases before with
      | zero => exact ⟨0, action, rfl, same, rfl⟩
      | succ before =>
        rw [nameCount_cons, if_pos same, Nat.add_comm, Nat.add_lt_add_iff_left] at less
        rcases ih less with ⟨place, other, stored, named, counted⟩
        refine ⟨place + 1, other, stored, named, ?_⟩
        rw [List.take_succ_cons, nameCount_cons, if_pos same, counted, Nat.add_comm]
    · rw [nameCount_cons, if_neg same, Nat.zero_add] at less
      rcases ih less with ⟨place, other, stored, named, counted⟩
      refine ⟨place + 1, other, stored, named, ?_⟩
      rw [List.take_succ_cons, nameCount_cons, if_neg same, counted, Nat.zero_add]

/-- An action counts for the places behind its own. -/
theorem nameCount_take_lt {place later : Nat} (stored : actions[place]? = some action)
    (earlier : place < later) :
    nameCount action.name (actions.take place) < nameCount action.name (actions.take later) := by
  rcases Nat.exists_eq_add_of_lt earlier with ⟨distance, rfl⟩
  have split : actions.take (place + distance + 1) =
      actions.take place ++ action :: (actions.drop (place + 1)).take distance := by
    rw [Nat.add_right_comm, List.take_add, List.take_add_one, stored]
    simp
  rw [split, nameCount_append, nameCount_cons, if_pos rfl]
  omega

theorem nameCount_of_perm (perm : whole.Perm actions) :
    nameCount name whole = nameCount name actions :=
  (perm.filter _).length_eq

/-! ### Sorting -/

theorem Action.precedes_trans (a b c : Action ρ) (first : a.precedes b = true)
    (second : b.precedes c = true) : a.precedes c = true := by
  unfold precedes at *
  by_cases sameFirst : a.name = b.name
  · by_cases sameSecond : b.name = c.name
    · simp [sameFirst, sameSecond] at *
      omega
    · simpa [sameFirst, sameSecond] using second
  · by_cases sameSecond : b.name = c.name
    · simpa [← sameSecond, sameFirst] using first
    · simp only [beq_iff_eq, sameFirst, sameSecond, if_false, decide_eq_true_eq] at first second
      have less := String.lt_trans first second
      have different : a.name ≠ c.name := by
        intro same
        rw [same] at less
        exact String.lt_irrefl _ less
      simpa [different] using less

theorem Action.precedes_total (a b : Action ρ) : (a.precedes b || b.precedes a) = true := by
  unfold precedes
  by_cases same : a.name = b.name
  · simp [same]
    omega
  · rcases lt_or_gt_of_ne same with less | less <;> simp [same, Ne.symm same, less]

theorem Action.name_le_of_precedes {a b : Action ρ} (precedes : a.precedes b = true) :
    a.name ≤ b.name := by
  unfold Action.precedes at precedes
  by_cases same : a.name = b.name
  · exact le_of_eq same
  · simp only [beq_iff_eq, same, if_false, decide_eq_true_eq] at precedes
    exact le_of_lt precedes

theorem Controller.ordered_perm (controller : Controller ρ) :
    controller.ordered.Perm controller.actions :=
  List.mergeSort_perm controller.actions Action.precedes

theorem Controller.pairwise_ordered (controller : Controller ρ) :
    controller.ordered.Pairwise fun a b => a.name ≤ b.name := by
  apply List.Pairwise.imp Action.name_le_of_precedes
  exact List.pairwise_mergeSort Action.precedes_trans Action.precedes_total controller.actions

/-! ### Numbering -/

/-- Numbering goes by what stands before, which `current` and `index` tell for the names that are
still to come: in a sorted list only the name of the last action can come again. -/
theorem getElem?_numberActions (before : List (Action ρ)) {current : Option String} {index : Nat}
    (sorted : (before ++ actions).Pairwise fun a b => a.name ≤ b.name)
    (told : ∀ a ∈ actions,
      nameCount a.name before = if current = some a.name then index else 0) (place : Nat) :
    (numberActions whole current index actions)[place]? =
      actions[place]?.map fun a =>
        (clientName whole a.name (nameCount a.name (before ++ actions.take place)), a) := by
  induction actions generalizing before current index place with
  | nil => simp [numberActions]
  | cons action actions ih =>
    have number : (if current == some action.name then index + 1 else 1) =
        nameCount action.name before + 1 := by
      rw [told action List.mem_cons_self]
      by_cases same : current = some action.name <;> simp [same]
    rw [numberActions, number]
    cases place with
    | zero => simp [clientName, nameCount]
    | succ place =>
      rw [List.getElem?_cons_succ, List.getElem?_cons_succ, List.take_succ_cons]
      rw [List.append_cons] at sorted
      rw [ih (before ++ [action]) sorted]
      · simp
      · intro later among
        by_cases same : action.name = later.name
        · simp [same, nameCount_cons]
        · have none : nameCount later.name before = 0 := by
            rw [nameCount_eq_zero_iff]
            intro earlier present sameLater
            rw [List.append_assoc, List.pairwise_append] at sorted
            apply same
            apply le_antisymm
            · exact List.rel_of_pairwise_cons sorted.2.1 among
            · rw [← sameLater]
              exact sorted.2.2 earlier present action List.mem_cons_self
          simp [same, none, nameCount_cons]

/-- The name of an action of a controller tells how many of its name stand before it. -/
theorem Controller.getElem?_uniqueNames (controller : Controller ρ) (place : Nat) :
    controller.uniqueNames[place]? =
      controller.ordered[place]?.map fun action =>
        (clientName controller.actions action.name
          (nameCount action.name (controller.ordered.take place)), action) := by
  have same (name : String) (before : Nat) :
      clientName controller.ordered name before = clientName controller.actions name before := by
    rw [clientName, clientName, nameCount_of_perm controller.ordered_perm]
  have numbered : (numberActions controller.ordered none 0 controller.ordered)[place]? = _ :=
    getElem?_numberActions [] controller.pairwise_ordered (by simp) place
  simp only [same, List.nil_append] at numbered
  exact numbered

theorem Controller.map_snd_uniqueNames (controller : Controller ρ) :
    controller.uniqueNames.map (·.2) = controller.ordered := by
  apply List.ext_getElem?
  intro place
  rw [List.getElem?_map, getElem?_uniqueNames, Option.map_map]
  exact congrFun Option.map_id _

theorem Controller.zip_memberNames (controller : Controller ρ) :
    controller.memberNames.zip controller.ordered =
      controller.uniqueNames.map fun named => (QualifiedName.camelCase named.1, named.2) := by
  rw [memberNames, ← map_snd_uniqueNames, List.zip_map']

/-- In the class of a controller there is a function for each action, in the order of their
numbers. -/
theorem controllerClass_of_members (writer : ActionWriter) (controller : Controller ClassId) :
    writer.controllerClass controller =
      Code.stack
        [Code.comment controller.documentation,
          [["export class ", controller.name, "Controller \x7b"],
            ["    constructor(private client: helpers.ApiClient) \x7b\x7d"]],
          (controller.memberNames.zip controller.ordered).flatMap fun member =>
            [] :: writer.function member.1 member.2,
          [["\x7d"], []]] := by
  rw [Controller.zip_memberNames, List.flatMap_map, writer.controllerClass_eq]

/-! ### Numbers and the case of the first letter -/

theorem lowerChar_of_isDigit {c : Char} (digit : c.isDigit = true) : Text.lowerChar c = [c] := by
  have same : (Text.digits.all fun digit => Text.lowerChar digit == [digit]) = true := by decide
  exact eq_of_beq (List.all_eq_true.mp same c (Text.mem_digits_of_isDigit digit))

/-- A number at the end of a name does not take part in the change of its first letter. -/
theorem camelCase_append_toString (name : String) (number : Nat) :
    QualifiedName.camelCase (name ++ toString number) =
      QualifiedName.camelCase name ++ toString number := by
  have digits : ∀ c ∈ (toString number).toList, c.isDigit = true := by
    intro c among
    exact Text.isDigit_of_mem_toString among
  generalize toString number = ending at digits
  apply String.toList_injective
  unfold QualifiedName.camelCase QualifiedName.mapFirst
  rw [String.toList_append]
  cases name.toList with
  | cons c cs => simp
  | nil =>
    cases spelled : ending.toList with
    | nil => simp [spelled]
    | cons c cs => simp [lowerChar_of_isDigit (digits c (by simp [spelled])), spelled]

theorem clientName_injective {first second : Nat} (shared : 1 < nameCount name whole)
    (same : QualifiedName.camelCase (clientName whole name first) =
      QualifiedName.camelCase (clientName whole name second)) : first = second := by
  simp only [clientName, shared, if_true, camelCase_append_toString, String.append_right_inj]
    at same
  have := Text.toString_injective same
  omega

/-- What is left of a name in the client without the digits at its end. -/
theorem rdropWhile_camelCase_clientName
    (ends : ∀ c ∈ (QualifiedName.camelCase name).toList.getLast?, c.isDigit = false)
    (before : Nat) :
    (QualifiedName.camelCase (clientName whole name before)).toList.rdropWhile Char.isDigit =
      (QualifiedName.camelCase name).toList := by
  have kept : (QualifiedName.camelCase name).toList.rdropWhile Char.isDigit =
      (QualifiedName.camelCase name).toList := by
    rw [List.rdropWhile_eq_self_iff]
    intro nonempty digit
    rw [ends _ (List.getLast?_eq_getLast_of_ne_nil nonempty)] at digit
    cases digit
  unfold clientName
  split
  · rw [camelCase_append_toString, String.toList_append, List.rdropWhile, List.reverse_append,
      List.dropWhile_append_of_pos]
    · exact kept
    · intro c among
      exact Text.isDigit_of_mem_toString (List.mem_reverse.mp among)
  · exact kept

/-! ### Results -/

namespace Controller

variable (controller : Controller ρ)

theorem getElem?_memberNames (place : Nat) :
    controller.memberNames[place]? =
      controller.ordered[place]?.map fun action =>
        QualifiedName.camelCase (clientName controller.actions action.name
          (nameCount action.name (controller.ordered.take place))) := by
  rw [memberNames, List.getElem?_map, getElem?_uniqueNames, Option.map_map]
  rfl

theorem mem_clientNames_of_stored {place : Nat}
    (stored : controller.ordered[place]? = some action) :
    clientName controller.actions action.name
        (nameCount action.name (controller.ordered.take place)) ∈
      controller.clientNames action.name := by
  apply List.mem_map_of_mem
  rw [List.mem_range, ← nameCount_of_perm controller.ordered_perm]
  have less := nameCount_take_lt stored (List.getElem?_eq_some_iff.mp stored).1
  rwa [List.take_length] at less

theorem exists_place_of_mem_clientNames {client : String}
    (among : client ∈ controller.clientNames name) :
    ∃ (place : Nat) (action : Action ρ), controller.ordered[place]? = some action ∧
      action.name = name ∧
      controller.memberNames[place]? = some (QualifiedName.camelCase client) := by
  rcases List.mem_map.mp among with ⟨before, less, rfl⟩
  rw [List.mem_range, ← nameCount_of_perm controller.ordered_perm] at less
  rcases exists_place_of_lt_nameCount less with ⟨place, action, stored, rfl, rfl⟩
  refine ⟨place, action, stored, rfl, ?_⟩
  rw [getElem?_memberNames, stored, Option.map_some]

theorem nodup_memberNames_iff :
    controller.memberNames.Nodup ↔
      ∀ first ∈ controller.actions, ∀ second ∈ controller.actions, first.name ≠ second.name →
        ∀ firstClient ∈ controller.clientNames first.name,
          ∀ secondClient ∈ controller.clientNames second.name,
            QualifiedName.camelCase firstClient ≠ QualifiedName.camelCase secondClient := by
  constructor
  · intro distinct first _ second _ different firstClient amongFirst secondClient amongSecond same
    rcases controller.exists_place_of_mem_clientNames amongFirst with
      ⟨place, action, stored, named, written⟩
    rcases controller.exists_place_of_mem_clientNames amongSecond with
      ⟨otherPlace, other, otherStored, otherNamed, otherWritten⟩
    -- The two names stand at places with different actions, and so at different places.
    have inside : place < controller.memberNames.length := (List.getElem?_eq_some_iff.mp written).1
    have samePlace : place = otherPlace := by
      apply (List.getElem?_inj inside distinct).mp
      rw [written, otherWritten, same]
    rw [← samePlace, stored, Option.some.injEq] at otherStored
    apply different
    rw [← named, ← otherNamed, otherStored]
  · intro apart
    rw [List.nodup_iff_getElem?_ne_getElem?]
    intro place later earlier inside same
    have written := List.getElem?_eq_getElem inside
    rw [written, getElem?_memberNames, Option.map_eq_some_iff] at same
    rw [getElem?_memberNames, Option.map_eq_some_iff] at written
    rcases same with ⟨action, stored, spelled⟩
    rcases written with ⟨other, otherStored, otherSpelled⟩
    rw [← otherSpelled] at spelled
    by_cases sameName : action.name = other.name
    · have counted := nameCount_take_lt stored earlier
      have bound := nameCount_take_lt otherStored (List.getElem?_eq_some_iff.mp otherStored).1
      rw [List.take_length, nameCount_of_perm controller.ordered_perm, ← sameName] at bound
      rw [← sameName] at spelled
      have shared : 1 < nameCount action.name controller.actions := by omega
      have := clientName_injective shared spelled
      omega
    · have among := controller.ordered_perm.mem_iff.mp (List.mem_of_getElem? stored)
      have otherAmong := controller.ordered_perm.mem_iff.mp (List.mem_of_getElem? otherStored)
      exact apart action among other otherAmong sameName _
        (controller.mem_clientNames_of_stored stored) _
        (controller.mem_clientNames_of_stored otherStored) spelled

/-- Names that are still different when their first letters are in lower case, and none of which ends
in a digit, lead to different names for the client. -/
theorem nodup_memberNames_of_ends
    (apart : ∀ first ∈ controller.actions, ∀ second ∈ controller.actions,
      first.name ≠ second.name →
        QualifiedName.camelCase first.name ≠ QualifiedName.camelCase second.name)
    (ends : ∀ action ∈ controller.actions,
      ∀ c ∈ (QualifiedName.camelCase action.name).toList.getLast?, c.isDigit = false) :
    controller.memberNames.Nodup := by
  rw [nodup_memberNames_iff]
  intro first amongFirst second amongSecond different firstClient isFirst secondClient isSecond same
  rcases List.mem_map.mp isFirst with ⟨before, -, rfl⟩
  rcases List.mem_map.mp isSecond with ⟨otherBefore, -, rfl⟩
  apply apart first amongFirst second amongSecond different
  apply String.toList_injective
  rw [← rdropWhile_camelCase_clientName (ends first amongFirst) before, same,
    rdropWhile_camelCase_clientName (ends second amongSecond) otherBefore]

/-- In the class of a controller there is a function for each action. The functions have different
names exactly if no two different names of actions lead to the same name for the client; the actions
of one name never do. So it is enough that the names are still different when their first letters
are in lower case, and that none of them ends in a digit. -/
theorem memberNames_apart (controller : Controller ClassId) :
    (∀ writer : ActionWriter, writer.controllerClass controller =
      Code.stack
        [Code.comment controller.documentation,
          [["export class ", controller.name, "Controller \x7b"],
            ["    constructor(private client: helpers.ApiClient) \x7b\x7d"]],
          (controller.memberNames.zip controller.ordered).flatMap fun member =>
            [] :: writer.function member.1 member.2,
          [["\x7d"], []]]) ∧
    (controller.memberNames.Nodup ↔
      ∀ first ∈ controller.actions, ∀ second ∈ controller.actions, first.name ≠ second.name →
        ∀ firstClient ∈ controller.clientNames first.name,
          ∀ secondClient ∈ controller.clientNames second.name,
            QualifiedName.camelCase firstClient ≠ QualifiedName.camelCase secondClient) ∧
    ((∀ first ∈ controller.actions, ∀ second ∈ controller.actions, first.name ≠ second.name →
        QualifiedName.camelCase first.name ≠ QualifiedName.camelCase second.name) →
      (∀ action ∈ controller.actions,
        ∀ c ∈ (QualifiedName.camelCase action.name).toList.getLast?, c.isDigit = false) →
      controller.memberNames.Nodup) := by
  refine ⟨fun writer => controllerClass_of_members writer controller,
    controller.nodup_memberNames_iff, ?_⟩
  intro apart ends
  exact controller.nodup_memberNames_of_ends apart ends

variable {controller} in
theorem memberNames_of_pairwise
    (sorted : controller.actions.Pairwise fun first second => first.precedes second = true) :
    controller.memberNames =
      (numberActions controller.actions none 0 controller.actions).map fun named =>
        QualifiedName.camelCase named.1 := by
  have ordered : controller.actions.mergeSort Action.precedes = controller.actions :=
    List.mergeSort_of_pairwise sorted
  simp only [memberNames, uniqueNames, ordered]

/-- An action of a name. -/
def called (name : String) : Action ClassId where
  name
  verb := .get
  route := "orders"
  parameters := []
  controller := "Orders"

theorem memberNames_apart_of_overloads :
    (∀ first ∈ ["Get", "Get", "Post"], ∀ second ∈ ["Get", "Get", "Post"], first ≠ second →
        QualifiedName.camelCase first ≠ QualifiedName.camelCase second) ∧
      Controller.memberNames ⟨"Orders", none, ["Get", "Get", "Post"].map called⟩ =
        ["get1", "get2", "post"] ∧
      (Controller.memberNames ⟨"Orders", none, ["Get", "Get", "Post"].map called⟩).Nodup := by
  refine ⟨by decide, by rw [memberNames_of_pairwise (by decide)]; decide, ?_⟩
  apply (memberNames_apart _).2.2
  · decide
  · have ends : (["Get", "Get", "Post"].all fun name =>
        (QualifiedName.camelCase name).toList.getLast?.all fun c => !c.isDigit) = true := by decide
    simpa [called, Option.all_eq_true] using ends

/-- The name that an action has in the client because it shares its own, and the own name of another
action; and two names that differ in the case of their first letter. -/
theorem memberNames_not_apart :
    Controller.memberNames ⟨"Orders", none, ["Get", "Get", "Get1"].map called⟩ =
        ["get1", "get2", "get1"] ∧
      ¬(Controller.memberNames ⟨"Orders", none, ["Get", "Get", "Get1"].map called⟩).Nodup ∧
      ¬(Controller.memberNames ⟨"Orders", none, ["Get", "get"].map called⟩).Nodup := by
  have repeated : Controller.memberNames
      ⟨"Orders", none, ["Get", "Get", "Get1"].map called⟩ = ["get1", "get2", "get1"] := by
    rw [memberNames_of_pairwise (by decide)]
    decide
  have merged : Controller.memberNames ⟨"Orders", none, ["Get", "get"].map called⟩ =
      ["get", "get"] := by
    rw [memberNames_of_pairwise (by decide)]
    decide
  rw [repeated, merged]
  decide

end Controller

end ClientGen

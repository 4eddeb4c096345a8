import ClientGen.Proofs.TypeScript.Numbering

/-!
# The order of overloads

Sorting keeps actions that neither name nor parameter count tells apart in the order in which the
controller has them. So of any two actions it is settled which one comes first, and with it which
number each of the actions has that share a name.
-/

namespace ClientGen

variable {ρ : Type} {actions whole : List (Action ρ)}

/-- Whether an action is numbered before another one, each given with its place in the controller:
by name, then by the number of parameters, then by place. -/
def Action.Earlier (first second : Action ρ × Nat) : Prop :=
  first.1.name < second.1.name ∨ first.1.name = second.1.name ∧
    (first.1.parameters.length < second.1.parameters.length ∨
      first.1.parameters.length = second.1.parameters.length ∧ first.2 < second.2)

/-! ### The order -/

/-- Where the sort that respects places puts one action before another, the places only have to be
different. -/
theorem Action.earlier_of_zipIdxLE {first second : Action ρ × Nat}
    (sorted : List.zipIdxLE Action.precedes first second = true) (apart : first.2 ≠ second.2) :
    Action.Earlier first second := by
  rw [List.zipIdxLE] at sorted
  split at sorted
  · next precedes =>
    rcases lt_or_eq_of_le (Action.name_le_of_precedes precedes) with less | same
    · exact Or.inl less
    · refine Or.inr ⟨same, ?_⟩
      simp only [Action.precedes, same, beq_self_eq_true, if_true, decide_eq_true_eq]
        at precedes sorted
      split at sorted
      · next converse =>
        have places : first.2 ≤ second.2 := of_decide_eq_true sorted
        omega
      · omega
  · cases sorted

/-- The actions of a controller in the order in which they are numbered, with their places. -/
def Controller.placed (controller : Controller ρ) : List (Action ρ × Nat) :=
  controller.actions.zipIdx.mergeSort (List.zipIdxLE Action.precedes)

namespace Controller

variable (controller : Controller ρ)

theorem placed_perm : controller.placed.Perm controller.actions.zipIdx :=
  List.mergeSort_perm _ _

theorem map_fst_placed : controller.placed.map (·.1) = controller.ordered :=
  List.mergeSort_zipIdx

theorem pairwise_placed : controller.placed.Pairwise Action.Earlier := by
  have sorted : controller.placed.Pairwise fun first second =>
      List.zipIdxLE Action.precedes first second = true := by
    apply List.pairwise_mergeSort
    · exact List.zipIdxLE_trans Action.precedes_trans
    · exact List.zipIdxLE_total Action.precedes_total
  have places : (controller.placed.map (·.2)).Nodup := by
    rw [(controller.placed_perm.map _).nodup_iff, List.zipIdx_map_snd]
    exact List.nodup_range'
  have apart := List.pairwise_map.mp places
  exact sorted.imp₂ (fun _ _ => Action.earlier_of_zipIdxLE) apart

end Controller

/-! ### The numbers of a name -/

/-- If every action is named for how many of its name stand before it, those of one name have the
numbers from the first one on. -/
theorem map_fst_filter_of_numbered (name : String) {named : List (String × Action ρ)}
    (before : List (Action ρ))
    (numbered : ∀ place : Nat, named[place]? = actions[place]?.map fun action =>
      (clientName whole action.name (nameCount action.name (before ++ actions.take place)),
        action)) :
    (named.filter (·.2.name == name)).map (·.1) =
      (List.range' (nameCount name before) (nameCount name actions)).map
        (clientName whole name) := by
  induction actions generalizing named before with
  | nil =>
    have empty : named = [] := by simpa using numbered 0
    rw [empty]
    rfl
  | cons action actions ih =>
    cases named with
    | nil => simpa using numbered 0
    | cons first named =>
      have others := ih (before ++ [action]) fun place => by simpa using numbered (place + 1)
      have own := numbered 0
      simp only [List.getElem?_cons_zero, Option.map_some, Option.some.injEq, List.take_zero,
        List.append_nil] at own
      rw [own, List.filter_cons, nameCount_cons]
      by_cases same : action.name = name
      · simp [same, others, nameCount_cons, Nat.add_comm 1, List.range'_succ]
      · simp [same, others, nameCount_cons]

/-- Every action of a controller gets one name for the client. The actions are ordered by their
names, then by the number of their parameters, then by where the controller has them. An action that
shares its name with no other one keeps it, and the others are numbered from one on in that order. -/
theorem Controller.uniqueNames_in_order (controller : Controller ρ) :
    (∃ placed : List (Action ρ × Nat), placed.Perm controller.actions.zipIdx ∧
      placed.map (·.1) = controller.uniqueNames.map (·.2) ∧ placed.Pairwise Action.Earlier) ∧
    ∀ name, (controller.uniqueNames.filter (·.2.name == name)).map (·.1) =
      if nameCount name controller.actions = 1 then [name]
      else (List.range (nameCount name controller.actions)).map fun earlier =>
        name ++ toString (earlier + 1) := by
  constructor
  · refine ⟨controller.placed, controller.placed_perm, ?_, controller.pairwise_placed⟩
    rw [map_fst_placed, map_snd_uniqueNames]
  · intro name
    have numbered := map_fst_filter_of_numbered name [] controller.getElem?_uniqueNames
    rw [numbered, nameCount_nil, nameCount_of_perm controller.ordered_perm, ← List.range_eq_range']
    split
    · next alone => simp [alone, clientName]
    · next shared =>
      apply List.map_congr_left
      intro earlier isEarlier
      have several : 1 < nameCount name controller.actions := by
        have := List.mem_range.mp isEarlier
        omega
      rw [clientName, if_pos several]

end ClientGen

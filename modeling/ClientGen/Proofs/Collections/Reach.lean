import ClientGen.Collections.Reach
import Mathlib.Data.List.Basic
import Mathlib.Logic.Relation

/-!
# What a bounded search finds

Whatever its bound, a search adds nothing to the nodes seen but what can be reached along edges. If
the bound exceeds the number of nodes with edges that are still unseen, the search leaves no edge of
a node that it added untried, and a larger bound would change nothing: a step deeper marks a node
that was unseen, so the bound and the number of unseen nodes fall together.
-/

namespace ClientGen

open Relation (ReflTransGen)

variable {α : Type} [DecidableEq α] {edges : α → List α} {bound : Nat} {nodes seen : List α}
  {node other : α}

/-- Whether the nodes of a list are all that have edges, among those that are reached from them. -/
def Spans (edges : α → List α) (nodes : List α) : Prop :=
  ∀ node ∈ nodes, ∀ next ∈ edges node, next ∈ nodes ∨ edges next = []

/-- How many nodes of a list are still unseen. -/
def unseen (nodes seen : List α) : Nat :=
  (nodes.filter fun node => node ∉ seen).length

theorem unseen_le_length (nodes seen : List α) : unseen nodes seen ≤ nodes.length :=
  List.length_filter_le _ _

theorem unseen_le_of_subset {later : List α} (grown : seen ⊆ later) :
    unseen nodes later ≤ unseen nodes seen := by
  simp only [unseen, ← List.countP_eq_length_filter]
  apply List.countP_mono_left
  intro node _ still
  simp only [decide_eq_true_eq] at still ⊢
  intro before
  exact still (grown before)

theorem unseen_cons_lt (among : node ∈ nodes) (fresh : node ∉ seen) :
    unseen nodes (node :: seen) < unseen nodes seen := by
  have both : (nodes.filter fun other => other ∉ node :: seen) =
      (nodes.filter fun other => other ∉ seen).filter fun other => other ≠ node := by
    rw [List.filter_filter]
    apply List.filter_congr
    intro other _
    simp [not_or]
  rw [unseen, unseen, both, List.length_filter_lt_length_iff_exists]
  exact ⟨node, by simp [among, fresh], by simp⟩

theorem reach_succ_of_mem (old : node ∈ seen) : reach edges (bound + 1) seen node = seen := by
  rw [reach, if_pos old]

theorem reach_succ_of_not_mem (fresh : node ∉ seen) :
    reach edges (bound + 1) seen node = (edges node).foldl (reach edges bound) (node :: seen) := by
  rw [reach, if_neg fresh]

/-! ### What was seen stays seen -/

omit [DecidableEq α] in
theorem subset_foldl {search : List α → α → List α}
    (keeps : ∀ (seen : List α) (node : α), seen ⊆ search seen node) (targets seen : List α) :
    seen ⊆ targets.foldl search seen := by
  induction targets generalizing seen with
  | nil => exact List.Subset.refl seen
  | cons target targets ih =>
    exact List.Subset.trans (keeps seen target) (ih (search seen target))

theorem subset_reach (seen : List α) (node : α) : seen ⊆ reach edges bound seen node := by
  induction bound generalizing seen node with
  | zero => exact List.Subset.refl seen
  | succ bound ih =>
    by_cases old : node ∈ seen
    · rw [reach_succ_of_mem old]
      exact List.Subset.refl seen
    · rw [reach_succ_of_not_mem old]
      exact List.Subset.trans (List.subset_cons_self node seen) (subset_foldl ih _ _)

theorem mem_reach_self (positive : 0 < bound) : node ∈ reach edges bound seen node := by
  cases bound with
  | zero => cases positive
  | succ bound =>
    by_cases old : node ∈ seen
    · rw [reach_succ_of_mem old]
      exact old
    · rw [reach_succ_of_not_mem old]
      exact subset_foldl subset_reach _ _ List.mem_cons_self

/-! ### Nothing else is found -/

/-- Whether a path of nodes that are all unseen leads from one node to another one. -/
inductive UnseenPath (edges : α → List α) (seen : List α) : α → α → Prop
  | here {node : α} (fresh : node ∉ seen) : UnseenPath edges seen node node
  | step {node next other : α} (fresh : node ∉ seen) (edge : next ∈ edges node)
    (path : UnseenPath edges seen next other) : UnseenPath edges seen node other

omit [DecidableEq α] in
theorem UnseenPath.of_subset {later : List α} (path : UnseenPath edges later node other)
    (grown : seen ⊆ later) : UnseenPath edges seen node other := by
  induction path with
  | here fresh => exact .here fun old => fresh (grown old)
  | step fresh edge _ ih => exact .step (fun old => fresh (grown old)) edge ih

omit [DecidableEq α] in
theorem UnseenPath.reachable (path : UnseenPath edges seen node other) :
    ReflTransGen (fun a b => b ∈ edges a) node other := by
  induction path with
  | here => exact .refl
  | step _ edge _ ih => exact .head edge ih

omit [DecidableEq α] in
theorem unseenPath_of_mem_foldl {search : List α → α → List α}
    (keeps : ∀ (seen : List α) (node : α), seen ⊆ search seen node)
    (finds : ∀ {seen : List α} {node other : α}, other ∈ search seen node →
      other ∈ seen ∨ UnseenPath edges seen node other)
    {targets : List α} (found : other ∈ targets.foldl search seen) :
    other ∈ seen ∨ ∃ target ∈ targets, UnseenPath edges seen target other := by
  induction targets generalizing seen with
  | nil => exact Or.inl found
  | cons target targets ih =>
    rcases ih found with before | ⟨later, among, path⟩
    · rcases finds before with old | path
      · exact Or.inl old
      · exact Or.inr ⟨target, List.mem_cons_self, path⟩
    · exact Or.inr ⟨later, List.mem_cons_of_mem _ among, path.of_subset (keeps seen target)⟩

/-- To what a search adds, a path of unseen nodes leads from where it began. -/
theorem unseenPath_of_mem_reach (found : other ∈ reach edges bound seen node) :
    other ∈ seen ∨ UnseenPath edges seen node other := by
  induction bound generalizing seen node other with
  | zero => exact Or.inl found
  | succ bound ih =>
    by_cases old : node ∈ seen
    · rw [reach_succ_of_mem old] at found
      exact Or.inl found
    · rw [reach_succ_of_not_mem old] at found
      rcases unseenPath_of_mem_foldl subset_reach ih found with before | ⟨next, edge, path⟩
      · rcases List.mem_cons.mp before with rfl | before
        · exact Or.inr (.here old)
        · exact Or.inl before
      · exact Or.inr (.step old edge (path.of_subset (List.subset_cons_self node seen)))

/-- What a search adds can be reached from where it began. -/
theorem reachable_of_mem_reach (found : other ∈ reach edges bound seen node) :
    other ∈ seen ∨ ReflTransGen (fun a b => b ∈ edges a) node other :=
  (unseenPath_of_mem_reach found).imp_right UnseenPath.reachable

/-! ### Nothing is missed -/

theorem closed_foldl {search : List α → α → List α}
    (keeps : ∀ (seen : List α) (node : α), seen ⊆ search seen node)
    {targets : List α} {limit : Nat}
    (closes : ∀ target ∈ targets, ∀ seen : List α, unseen nodes seen < limit →
      ∀ found ∈ search seen target, found ∉ seen → edges found ⊆ search seen target)
    (room : unseen nodes seen < limit) :
    ∀ found ∈ targets.foldl search seen, found ∉ seen →
      edges found ⊆ targets.foldl search seen := by
  induction targets generalizing seen with
  | nil =>
    intro found old fresh
    exact absurd old fresh
  | cons target targets ih =>
    intro found among fresh
    have roomLeft : unseen nodes (search seen target) < limit :=
      Nat.lt_of_le_of_lt (unseen_le_of_subset (keeps seen target)) room
    by_cases early : found ∈ search seen target
    · have tried := closes target List.mem_cons_self seen room found early fresh
      exact List.Subset.trans tried (subset_foldl keeps targets _)
    · refine ih ?_ roomLeft found among early
      intro later isLater
      exact closes later (List.mem_cons_of_mem _ isLater)

omit [DecidableEq α] in
theorem mem_foldl_of_mem {search : List α → α → List α}
    (keeps : ∀ (seen : List α) (node : α), seen ⊆ search seen node)
    (finds : ∀ (seen : List α) (node : α), node ∈ search seen node) {targets : List α}
    (among : node ∈ targets) : node ∈ targets.foldl search seen := by
  induction targets generalizing seen with
  | nil => cases among
  | cons target targets ih =>
    rcases List.mem_cons.mp among with rfl | later
    · exact subset_foldl keeps targets _ (finds seen node)
    · exact ih later

/-- A search with room tries every edge of what it adds. -/
theorem closed_reach (spans : Spans edges nodes) (begins : node ∈ nodes ∨ edges node = [])
    (room : unseen nodes seen < bound) :
    ∀ found ∈ reach edges bound seen node, found ∉ seen →
      edges found ⊆ reach edges bound seen node := by
  induction bound generalizing seen node with
  | zero => exact absurd room (Nat.not_lt_zero _)
  | succ bound ih =>
    by_cases old : node ∈ seen
    · rw [reach_succ_of_mem old]
      intro found among fresh
      exact absurd among fresh
    · rw [reach_succ_of_not_mem old]
      rcases begins with among | none
      -- One step deeper the bound is smaller by one, but so is the number of unseen nodes.
      · have roomInside : unseen nodes (node :: seen) < bound :=
          Nat.lt_of_lt_of_le (unseen_cons_lt among old) (Nat.le_of_lt_succ room)
        intro found isFound fresh
        by_cases own : found = node
        · subst own
          intro next edge
          refine mem_foldl_of_mem subset_reach ?_ edge
          intro before start
          exact mem_reach_self (Nat.zero_lt_of_lt roomInside)
        · refine closed_foldl subset_reach ?_ roomInside found isFound ?_
          · intro target edge before roomThere
            exact ih (spans node among target edge) roomThere
          · intro before
            rcases List.mem_cons.mp before with same | before
            · exact own same
            · exact fresh before
      · intro found isFound fresh
        rw [none, List.foldl_nil] at isFound ⊢
        rcases List.mem_cons.mp isFound with rfl | before
        · rw [none]
          exact List.nil_subset _
        · exact absurd before fresh

/-- A search with room adds exactly the nodes to which paths of unseen nodes lead. -/
theorem mem_reach_iff (spans : Spans edges nodes) (begins : node ∈ nodes ∨ edges node = [])
    (room : unseen nodes seen < bound) :
    other ∈ reach edges bound seen node ↔ other ∈ seen ∨ UnseenPath edges seen node other := by
  constructor
  · exact unseenPath_of_mem_reach
  · rintro (old | path)
    · exact subset_reach seen node old
    · have closed := closed_reach spans begins room
      have start : node ∈ reach edges bound seen node := mem_reach_self (Nat.zero_lt_of_lt room)
      -- Only the end of the path moves on; what the search found stays the same.
      generalize reach edges bound seen node = found at closed start
      clear begins
      induction path with
      | here => exact start
      | step fresh edge _ ih => exact ih (closed _ start fresh edge)

/-- Two searches that both have room find the same, in the same order. -/
theorem reach_eq_of_room {larger : Nat} (spans : Spans edges nodes)
    (begins : node ∈ nodes ∨ edges node = []) (room : unseen nodes seen < bound)
    (roomToo : unseen nodes seen < larger) :
    reach edges bound seen node = reach edges larger seen node := by
  induction bound generalizing seen node larger with
  | zero => exact absurd room (Nat.not_lt_zero _)
  | succ bound ih =>
    rcases Nat.exists_eq_succ_of_ne_zero (Nat.ne_of_gt (Nat.zero_lt_of_lt roomToo)) with
      ⟨larger, rfl⟩
    by_cases old : node ∈ seen
    · rw [reach_succ_of_mem old, reach_succ_of_mem old]
    · rw [reach_succ_of_not_mem old, reach_succ_of_not_mem old]
      rcases begins with among | none
      · have fewer := unseen_cons_lt among old
        have inside : ∀ next ∈ edges node, next ∈ nodes ∨ edges next = [] := spans node among
        have enough : unseen nodes (node :: seen) < bound := by omega
        have enoughToo : unseen nodes (node :: seen) < larger := by omega
        -- What was seen changes from edge to edge, and there is room as long as it only grows.
        generalize edges node = targets at inside
        generalize node :: seen = start at enough enoughToo
        induction targets generalizing start with
        | nil => rfl
        | cons target targets ihTargets =>
          rw [List.foldl_cons, List.foldl_cons,
            ih (inside target List.mem_cons_self) enough enoughToo]
          have grown : unseen nodes (reach edges larger start target) ≤ unseen nodes start :=
            unseen_le_of_subset (subset_reach start target)
          refine ihTargets ?_ _ (Nat.lt_of_le_of_lt grown enough)
            (Nat.lt_of_le_of_lt grown enoughToo)
          intro next isNext
          exact inside next (List.mem_cons_of_mem _ isNext)
      · rw [none]
        rfl

end ClientGen

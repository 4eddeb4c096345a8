import ClientGen.Proofs.Collections.Reach

/-!
# Searching a graph for a target

A depth-first search that stops at the first target. The nodes that it entered are shared between
all branches, so a node that one branch gave up is not entered again by the next one. That loses
nothing: when a branch is given up, every node that was entered is no target, and every edge from
it leads to a node that was entered.

The rules have no bound. They end all the same where the nodes with edges can be listed, since each
of them is entered at most once.
-/

namespace ClientGen

open Relation (ReflTransGen)

variable {α : Type} {edges : α → List α} {isTarget : α → Prop}

/-- Whether looking for a target from one node after the other has this result. `visited` are the
nodes entered before, and `after` those entered when the search ends. -/
inductive Searches (edges : α → List α) (isTarget : α → Prop) :
    (visited : List α) → (nodes : List α) → (found : Bool) → (after : List α) → Prop
  | nothing {visited} : Searches edges isTarget visited [] false visited
  | target {visited node nodes} (here : isTarget node) :
    Searches edges isTarget visited (node :: nodes) true visited
  | again {visited node nodes found after} (other : ¬isTarget node) (old : node ∈ visited)
    (beside : Searches edges isTarget visited nodes found after) :
    Searches edges isTarget visited (node :: nodes) found after
  | inside {visited node nodes after} (other : ¬isTarget node) (fresh : node ∉ visited)
    (below : Searches edges isTarget (node :: visited) (edges node) true after) :
    Searches edges isTarget visited (node :: nodes) true after
  | beside {visited node nodes middle found after} (other : ¬isTarget node)
    (fresh : node ∉ visited)
    (below : Searches edges isTarget (node :: visited) (edges node) false middle)
    (beside : Searches edges isTarget middle nodes found after) :
    Searches edges isTarget visited (node :: nodes) found after

namespace Searches

variable {visited nodes after : List α} {found : Bool} {node : α}

theorem subset (search : Searches edges isTarget visited nodes found after) : visited ⊆ after := by
  induction search with
  | nothing => exact List.Subset.refl _
  | target here => exact List.Subset.refl _
  | again _ _ _ ih => exact ih
  | inside _ _ _ ih => exact List.Subset.trans (List.subset_cons_self _ _) ih
  | beside _ _ _ _ ihBelow ihBeside =>
    exact List.Subset.trans (List.Subset.trans (List.subset_cons_self _ _) ihBelow) ihBeside

theorem exists_path (search : Searches edges isTarget visited nodes true after) :
    ∃ node ∈ nodes, ∃ target, ReflTransGen (fun a b => b ∈ edges a) node target ∧
      isTarget target := by
  generalize outcome : true = found at search
  induction search with
  | nothing => cases outcome
  | @target _ node _ here => exact ⟨node, List.mem_cons_self, node, .refl, here⟩
  | again _ _ _ ih =>
    rcases ih outcome with ⟨node, among, reached⟩
    exact ⟨node, List.mem_cons_of_mem _ among, reached⟩
  | @inside _ node _ _ _ _ _ ih =>
    rcases ih rfl with ⟨next, edge, target, path, here⟩
    exact ⟨node, List.mem_cons_self, target, .head edge path, here⟩
  | beside _ _ _ _ _ ih =>
    rcases ih outcome with ⟨node, among, reached⟩
    exact ⟨node, List.mem_cons_of_mem _ among, reached⟩

/-- What is given up is closed under edges and holds no target. -/
theorem closed (search : Searches edges isTarget visited nodes false after) :
    nodes ⊆ after ∧ ∀ node ∈ after, node ∉ visited → ¬isTarget node ∧ edges node ⊆ after := by
  generalize outcome : false = found at search
  induction search with
  | nothing =>
    refine ⟨List.nil_subset _, ?_⟩
    intro node old fresh
    exact absurd old fresh
  | target here => cases outcome
  | again _ old beside ih =>
    rcases ih outcome with ⟨entered, rest⟩
    exact ⟨List.cons_subset.mpr ⟨beside.subset old, entered⟩, rest⟩
  | inside _ _ _ _ => cases outcome
  | @beside visited node nodes middle _ after other fresh below beside ihBelow ihBeside =>
    rcases ihBelow rfl with ⟨enteredBelow, restBelow⟩
    rcases ihBeside outcome with ⟨entered, rest⟩
    have grown : middle ⊆ after := beside.subset
    refine ⟨List.cons_subset.mpr ⟨grown (below.subset List.mem_cons_self), entered⟩, ?_⟩
    intro found among unseen
    by_cases own : found = node
    · subst own
      exact ⟨other, List.Subset.trans enteredBelow grown⟩
    · by_cases early : found ∈ middle
      · have tried := restBelow found early (by simp [own, unseen])
        exact ⟨tried.1, List.Subset.trans tried.2 grown⟩
      · exact rest found among early

/-- A search that begins with nothing entered finds a target exactly if one can be reached. -/
theorem found_iff (search : Searches edges isTarget [] [node] found after) :
    found = true ↔
      ∃ target, ReflTransGen (fun a b => b ∈ edges a) node target ∧ isTarget target := by
  cases found with
  | true =>
    rcases search.exists_path with ⟨start, isStart, reached⟩
    rw [List.mem_singleton.mp isStart] at reached
    simpa using reached
  | false =>
    rcases search.closed with ⟨entered, rest⟩
    simp only [Bool.false_eq_true, false_iff]
    rintro ⟨target, path, here⟩
    have reached : target ∈ after := by
      clear here
      induction path with
      | refl => exact entered List.mem_cons_self
      | tail _ edge ih => exact (rest _ ih List.not_mem_nil).2 edge
    exact (rest target reached List.not_mem_nil).1 here

end Searches

/-- Where the nodes with edges can be listed, every search ends. -/
theorem exists_searches [DecidableEq α] {known : List α} (spans : Spans edges known)
    (visited nodes : List α) (begins : ∀ node ∈ nodes, node ∈ known ∨ edges node = []) :
    ∃ found after, Searches edges isTarget visited nodes found after := by
  generalize enough : unseen known visited + 1 = bound
  replace enough : unseen known visited < bound := by omega
  induction bound generalizing visited nodes with
  | zero => omega
  | succ bound ih =>
    induction nodes generalizing visited with
    | nil => exact ⟨false, visited, .nothing⟩
    | cons node nodes ihNodes =>
      have others := fun visited => ihNodes visited fun later among =>
        begins later (List.mem_cons_of_mem _ among)
      by_cases here : isTarget node
      · exact ⟨true, visited, .target here⟩
      by_cases old : node ∈ visited
      · rcases others visited enough with ⟨found, after, beside⟩
        exact ⟨found, after, .again here old beside⟩
      -- A node that is entered leaves fewer to enter below it, unless it has no edges at all.
      have below : ∃ found after,
          Searches edges isTarget (node :: visited) (edges node) found after := by
        rcases begins node List.mem_cons_self with among | none
        · have fewer := unseen_cons_lt among old
          exact ih _ _ (spans node among) (by omega)
        · rw [none]
          exact ⟨false, _, .nothing⟩
      rcases below with ⟨found, middle, below⟩
      cases found with
      | true => exact ⟨true, middle, .inside here old below⟩
      | false =>
        have grown : unseen known middle ≤ unseen known visited :=
          unseen_le_of_subset (List.Subset.trans (List.subset_cons_self node visited) below.subset)
        rcases others middle (by omega) with ⟨found, after, beside⟩
        exact ⟨found, after, .beside here old below beside⟩

end ClientGen

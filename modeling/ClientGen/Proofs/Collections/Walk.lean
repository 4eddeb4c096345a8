import Mathlib.Data.List.Chain
import Mathlib.Logic.Relation

/-!
# Walks that end where they come back

A walk goes from each node to the one that follows it, and ends where nothing follows or where the
key of what follows was seen. The rules for it have no bound, so a walk that follows them ends.

What a walk visits is closed under following, up to equal keys. If equal keys mean equal nodes, the
walk therefore visits whatever can be reached from its start, and nothing else: two walks that end
for different reasons can still be compared by what can be reached.
-/

namespace ClientGen

open Relation (ReflTransGen)

variable {α κ : Type} {next : α → Option α} {key : α → κ}

/-- Whether one node follows the other. -/
abbrev Onward (next : α → Option α) (node following : α) : Prop :=
  next node = some following

/-- Whether the walk that begins with `start`, if there is such a node, visits these nodes. -/
inductive Walks (next : α → Option α) (key : α → κ) :
    (seen : List κ) → (start : Option α) → (visited : List α) → Prop
  | nowhere {seen} : Walks next key seen none []
  | back {seen node} (old : key node ∈ seen) : Walks next key seen (some node) []
  | visit {seen node visited} (fresh : key node ∉ seen)
    (onward : Walks next key (key node :: seen) (next node) visited) :
    Walks next key seen (some node) (node :: visited)

namespace Walks

variable {seen : List κ} {start : Option α} {visited others : List α} {first node : α}

theorem unique (walk : Walks next key seen start visited)
    (other : Walks next key seen start others) : visited = others := by
  induction walk generalizing others with
  | nowhere =>
    cases other
    rfl
  | back old =>
    cases other with
    | back => rfl
    | visit fresh _ => exact absurd old fresh
  | visit fresh _ ih =>
    cases other with
    | back old => exact absurd old fresh
    | visit _ onward => rw [ih onward]

theorem iff_eq (walk : Walks next key seen start visited) :
    Walks next key seen start others ↔ others = visited := by
  constructor
  · intro other
    exact other.unique walk
  · rintro rfl
    exact walk

theorem start_eq (walk : Walks next key seen start (node :: visited)) : start = some node := by
  cases walk
  rfl

theorem not_mem_seen (walk : Walks next key seen start visited) (among : node ∈ visited) :
    key node ∉ seen := by
  induction walk with
  | nowhere => cases among
  | back old => cases among
  | visit fresh _ ih =>
    rcases List.mem_cons.mp among with rfl | later
    · exact fresh
    · intro old
      exact ih later (List.mem_cons_of_mem _ old)

theorem nodup_keys (walk : Walks next key seen start visited) : (visited.map key).Nodup := by
  induction walk with
  | nowhere => exact List.nodup_nil
  | back old => exact List.nodup_nil
  | visit fresh onward ih =>
    rw [List.map_cons, List.nodup_cons]
    refine ⟨?_, ih⟩
    intro again
    rcases List.mem_map.mp again with ⟨later, among, same⟩
    apply onward.not_mem_seen among
    rw [same]
    exact List.mem_cons_self

theorem isChain (walk : Walks next key seen start visited) :
    visited.IsChain (Onward next) := by
  induction walk with
  | nowhere => exact .nil
  | back old => exact .nil
  | @visit seen node visited fresh onward ih =>
    cases visited with
    | nil => exact .singleton _
    | cons following visited => exact .cons_cons onward.start_eq ih

theorem exists_path_of_mem (walk : Walks next key seen start visited) (among : node ∈ visited) :
    ∃ first, start = some first ∧ ReflTransGen (Onward next) first node := by
  induction walk with
  | nowhere => cases among
  | back old => cases among
  | visit fresh _ ih =>
    rcases List.mem_cons.mp among with rfl | later
    · exact ⟨_, rfl, .refl⟩
    · rcases ih later with ⟨following, follows, path⟩
      exact ⟨_, rfl, .head follows path⟩

/-- A walk ends only where nothing follows or where it comes back. -/
theorem closed (walk : Walks next key seen start visited) :
    (∀ first, start = some first → key first ∈ seen ++ visited.map key) ∧
      ∀ node ∈ visited, ∀ following, next node = some following →
        key following ∈ seen ++ visited.map key := by
  induction walk with
  | nowhere => simp
  | back old => simp [old]
  | @visit seen node visited fresh onward ih =>
    have moved : ∀ found, found ∈ key node :: seen ++ visited.map key →
        found ∈ seen ++ (node :: visited).map key := by
      intro found among
      simpa [or_left_comm] using among
    constructor
    · intro first same
      simp [Option.some.inj same]
    · intro other among following follows
      apply moved
      rcases List.mem_cons.mp among with rfl | later
      · exact ih.1 following follows
      · exact ih.2 other later following follows

/-- Where equal keys mean equal nodes, a walk visits everything that can be reached. -/
theorem mem_iff_path (walk : Walks next key [] (some first) visited)
    (same : ∀ {node other : α}, ReflTransGen (Onward next) first node →
      ReflTransGen (Onward next) first other → key node = key other → node = other) :
    node ∈ visited ↔ ReflTransGen (Onward next) first node := by
  have reached : ∀ {other : α}, other ∈ visited → ReflTransGen (Onward next) first other := by
    intro other among
    rcases walk.exists_path_of_mem among with ⟨begun, begins, path⟩
    cases begins
    exact path
  have found : ∀ {other : α}, ReflTransGen (Onward next) first other →
      key other ∈ [] ++ visited.map key → other ∈ visited := by
    intro other path stored
    rcases List.mem_map.mp stored with ⟨known, among, equal⟩
    rwa [← same (reached among) path equal]
  constructor
  · exact reached
  · intro path
    induction path with
    | refl => exact found .refl (walk.closed.1 first rfl)
    | tail path follows ih => exact found (path.tail follows) (walk.closed.2 _ ih _ follows)

end Walks

end ClientGen

/-!
# What can be reached in a graph

The nodes of a graph that can be reached from a node along edges, by a depth-first search that
enters no node twice. The search is bounded by the number of nodes that it may still enter, which
falls with every step deeper into the graph; so a bound that is no less than the number of nodes
is never used up.
-/

namespace ClientGen

variable {α : Type} [DecidableEq α]

/-- Adds what can be reached from `node` to the nodes already seen, going through no more than
`bound` new nodes in a row. -/
def reach (edges : α → List α) : (bound : Nat) → (seen : List α) → (node : α) → List α
  | 0, seen, _ => seen
  | bound + 1, seen, node =>
    if node ∈ seen then seen
    else (edges node).foldl (reach edges bound) (node :: seen)

end ClientGen

import ClientGen.Proofs.Catalog.Walks
import ClientGen.Proofs.Collections.Search
import Mathlib.Data.List.Chain

/-!
# Contracts

A type implements a contract if a chain of interfaces and bases leads from its name to a name of the
contract, and since the search for such a chain has room, it finds every one. A search that stops at
the first contract has the same answer. Only what a name is declared as matters for a chain, so it
makes no difference by which of its names a declaration is referred to.
-/

namespace ClientGen.Catalog

open Relation (ReflTransGen)

variable {catalog : Catalog} {name : String} {contracts : List String} {declaration : Declaration}

/-! ### Chains of parents -/

/-- Whether a name is declared as a parent of the declaration behind another one. -/
def HasParent (catalog : Catalog) (name parent : String) : Prop :=
  parent ∈ catalog.parents name

theorem mem_reach_parents_iff {other : String} :
    other ∈ reach catalog.parents (catalog.parentCount + 1) [] name ↔
      ReflTransGen catalog.HasParent name other := by
  constructor
  · intro found
    rcases reachable_of_mem_reach found with seen | path
    · cases seen
    · exact path
  · intro path
    have room := Nat.lt_succ_of_le (catalog.unseen_allParents_le name)
    have closed := closed_reach (catalog.spans_parents name) (Or.inl List.mem_cons_self) room
    induction path with
    | refl => exact mem_reach_self (Nat.zero_lt_succ _)
    | tail _ edge ih => exact closed _ ih List.not_mem_nil edge

/-- The search for a contract finds it if a chain of parents leads there. -/
theorem implements_iff : catalog.implements name contracts = true ↔
    ∃ other, ReflTransGen catalog.HasParent name other ∧
      QualifiedName.lastSegment other ∈ contracts := by
  simp only [implements, List.any_eq_true, List.contains_iff_mem, mem_reach_parents_iff]

theorem parents_of_find? (found : catalog.find? name = some declaration) :
    catalog.parents name = parentsOf declaration := by
  rw [parents, found]
  rfl

theorem mem_parentsOf_iff {parent : String} : parent ∈ parentsOf declaration ↔
    declaration.base = some parent ∨
      ∃ interface ∈ declaration.interfaces, interface.name? = some parent := by
  rw [parentsOf, List.mem_append, List.mem_filterMap, Option.mem_toList, or_comm]

theorem hasParent_iff {parent : String} : catalog.HasParent name parent ↔
    ∃ declaration, catalog.find? name = some declaration ∧
      (declaration.base = some parent ∨
        ∃ interface ∈ declaration.interfaces, interface.name? = some parent) := by
  constructor
  · intro edge
    cases found : catalog.find? name with
    | none => simp [HasParent, parents, found] at edge
    | some declaration =>
      rw [HasParent, parents_of_find? found, mem_parentsOf_iff] at edge
      exact ⟨declaration, rfl, edge⟩
  · rintro ⟨declaration, found, declared⟩
    rwa [HasParent, parents_of_find? found, mem_parentsOf_iff]

/-- A name that is no contract itself implements one by the declaration behind it. -/
theorem exists_of_implements (other : QualifiedName.lastSegment name ∉ contracts)
    (implemented : catalog.implements name contracts = true) :
    ∃ declaration, catalog.find? name = some declaration ∧
      catalog.implements declaration.name contracts = true := by
  rcases implements_iff.mp implemented with ⟨contract, path, isContract⟩
  rcases path.cases_head with rfl | ⟨parent, edge, path⟩
  · exact absurd isContract other
  · rcases hasParent_iff.mp edge with ⟨declaration, found, declared⟩
    have edge : catalog.HasParent declaration.name parent :=
      hasParent_iff.mpr ⟨declaration, find?_name found, declared⟩
    exact ⟨declaration, found, implements_iff.mpr ⟨contract, .head edge path, isContract⟩⟩

theorem implements_of_parent (found : catalog.find? name = some declaration)
    (contract : QualifiedName.lastSegment name ∈ contracts ∨
      ∃ parent ∈ parentsOf declaration, QualifiedName.lastSegment parent ∈ contracts) :
    catalog.implements name contracts = true := by
  rw [implements_iff]
  rcases contract with own | ⟨parent, declared, isContract⟩
  · exact ⟨name, .refl, own⟩
  · refine ⟨parent, .single ?_, isContract⟩
    rwa [HasParent, parents_of_find? found]

/-! ### Searching for a contract -/

/-- A search for one of the contracts that goes from each name to the parents declared for it, and
enters no name twice, comes to an end, and its only answer is whether the type implements a
contract. The type does exactly if a finite chain leads from its name to a contract, in which the
declaration found for each name has the next name as its base or as one of its interfaces. -/
theorem implements_iff_chain (catalog : Catalog) (name : String) (contracts : List String) :
    let isContract := fun parent => QualifiedName.lastSegment parent ∈ contracts
    (∀ answer, (∃ visited, Searches catalog.parents isContract [] [name] answer visited) ↔
      answer = catalog.implements name contracts) ∧
    (catalog.implements name contracts = true ↔
      ∃ ancestors : List String,
        (name :: ancestors).IsChain (fun child parent =>
          ∃ declaration, catalog.find? child = some declaration ∧
            (declaration.base = some parent ∨
              ∃ interface ∈ declaration.interfaces, interface.name? = some parent)) ∧
        isContract ((name :: ancestors).getLast (List.cons_ne_nil name ancestors))) := by
  intro isContract
  constructor
  · have only : ∀ answer visited, Searches catalog.parents isContract [] [name] answer visited →
        answer = catalog.implements name contracts := by
      intro answer visited search
      rw [Bool.eq_iff_iff, search.found_iff, implements_iff]
      rfl
    have begins : ∀ node ∈ [name],
        node ∈ name :: catalog.allParents ∨ catalog.parents node = [] := by
      intro node isName
      left
      rw [List.mem_singleton.mp isName]
      exact List.mem_cons_self
    rcases exists_searches (catalog.spans_parents name) [] [name] begins with
      ⟨found, visited, search⟩
    intro answer
    constructor
    · rintro ⟨others, other⟩
      exact only answer others other
    · rintro rfl
      rw [← only found visited search]
      exact ⟨visited, search⟩
  · simp only [← hasParent_iff]
    rw [implements_iff]
    constructor
    · rintro ⟨contract, path, here⟩
      rcases List.exists_isChain_cons_of_relationReflTransGen path with ⟨ancestors, chain, rfl⟩
      exact ⟨ancestors, chain, here⟩
    · rintro ⟨ancestors, chain, here⟩
      exact ⟨_, List.relationReflTransGen_of_exists_isChain_cons ancestors chain rfl, here⟩

end ClientGen.Catalog

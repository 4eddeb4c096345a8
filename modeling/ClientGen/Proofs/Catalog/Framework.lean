import ClientGen.Proofs.Catalog.Contracts
import ClientGen.Proofs.Catalog.Namesakes

/-!
# The framework's types in a catalog

No two framework types have the same last segment. So as long as the application declares nothing
with one of these segments, a name that ends in it stands for the framework type, whatever stands
before it, and has the contracts of that type.
-/

namespace ClientGen

open QualifiedName (lastSegment)

namespace Catalog

/-- Whether no declaration of the application shares its last segment with a framework type. -/
def LeavesFramework (catalog : Catalog) : Prop :=
  ∀ declaration ∈ catalog.declarations, ∀ framework ∈ frameworkTypes,
    lastSegment declaration.name ≠ lastSegment framework.name

theorem leavesFramework_iff {catalog : Catalog} : catalog.LeavesFramework ↔
    ∀ declaration ∈ catalog.declarations, ∀ entry ∈ Framework.entries,
      lastSegment declaration.name ≠ entry.segment ++ entry.marker := by
  refine forall₂_congr fun declaration declared => ?_
  rw [frameworkTypes, List.forall_mem_map]
  refine forall₂_congr fun entry listed => ?_
  rw [Framework.Entry.lastSegment_name listed]

section

variable {catalog : Catalog} {name : String} {declaration framework : Declaration}
  (leaves : catalog.LeavesFramework) (listed : framework ∈ frameworkTypes)
  (same : lastSegment name = lastSegment framework.name)

include leaves listed same

theorem findExact?_framework (known : name ∈ catalog.allNames) :
    catalog.findExact? name = some framework := by
  rcases Option.isSome_iff_exists.mp (isSome_findExact?_iff.mpr known) with ⟨declaration, found⟩
  have segment : lastSegment declaration.name = lastSegment framework.name := by
    rw [name_of_findExact? found, same]
  rcases List.mem_append.mp (mem_of_findExact? found) with declared | isFramework
  · exact absurd segment (leaves declaration declared framework listed)
  · rw [found, List.inj_on_of_nodup_map Framework.Entry.nodup_lastSegments isFramework listed
      segment]

/-- A name with the last segment of a framework type stands for that type. -/
theorem find?_framework : catalog.find? name = some framework := by
  have isName : framework.name ∈ catalog.allNames :=
    List.mem_map_of_mem (List.mem_append_right _ listed)
  by_cases known : name ∈ catalog.allNames
  · rw [find?, findExact?_framework leaves listed same known]
  · have only : ∀ other, catalog.Namesake name other → other = framework.name := by
      rintro other ⟨isOther, segment⟩
      have found := findExact?_framework leaves listed (segment.trans same) isOther
      exact (name_of_findExact? found).symm
    rw [find?_of_only known ⟨isName, same.symm⟩ only]
    exact findExact?_framework leaves listed rfl isName

end

/-! ### Contracts -/

variable {catalog : Catalog} {name : String} {entry : Framework.Entry}

theorem lastSegment_contract {contract : String}
    (isContract : contract ∈ sequenceContracts ++ dictionaryContracts) :
    TypeExpr.expandKeyword contract = contract ∧ lastSegment contract = contract := by
  have all : ∀ contract ∈ sequenceContracts ++ dictionaryContracts,
      TypeExpr.expandKeyword contract = contract ∧ lastSegment contract = contract := by
    decide
  exact all contract isContract

/-- A framework type gives its contracts as its parents, in a catalog that leaves it alone. -/
theorem parents_framework (leaves : catalog.LeavesFramework) (listed : entry ∈ Framework.entries)
    (same : lastSegment name = entry.segment ++ entry.marker) :
    catalog.parents name = entry.contracts := by
  have plain : ∀ entry ∈ Framework.entries, parentsOf entry.declaration = entry.contracts := by
    decide
  rw [← Framework.Entry.lastSegment_name listed] at same
  rw [parents_of_find? (find?_framework leaves (List.mem_map_of_mem listed) same),
    plain entry listed]

theorem implements_framework {contracts : List String} (leaves : catalog.LeavesFramework)
    (listed : entry ∈ Framework.entries)
    (same : lastSegment name = lastSegment entry.declaration.name)
    (areContracts : contracts ⊆ sequenceContracts ++ dictionaryContracts)
    (contract : entry.segment ++ entry.marker ∈ contracts ∨
      ∃ contract ∈ contracts, contract ∈ entry.contracts) :
    catalog.implements name contracts = true := by
  have found := find?_framework leaves (List.mem_map_of_mem listed) same
  apply implements_of_parent found
  rcases contract with own | ⟨contract, isContract, declared⟩
  · left
    rwa [same, Framework.Entry.lastSegment_name listed]
  · have names := lastSegment_contract (areContracts isContract)
    refine Or.inr ⟨contract, mem_parentsOf_iff.mpr ?_, by rwa [names.2]⟩
    refine Or.inr ⟨.ofName contract, List.mem_map_of_mem declared, ?_⟩
    rw [TypeExpr.ofName, TypeExpr.name?, names.1]

end Catalog

end ClientGen

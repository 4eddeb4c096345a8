import ClientGen.Catalog.Basic
import ClientGen.Proofs.Collections.Ordered

/-!
# Looking declarations up

Whatever name a declaration was found by, its own name finds it as well; so a class that keeps the
name of its declaration keeps the way back to it.
-/

namespace ClientGen.Catalog

variable {catalog : Catalog} {name : String} {declaration : Declaration}

theorem name_of_findExact? (found : catalog.findExact? name = some declaration) :
    declaration.name = name := by
  unfold findExact? at found
  split at found
  · next stored =>
    cases found
    exact (catalog.keyed _ (Ordered.mem_of_find? stored)).symm
  · simpa using List.find?_some found

theorem mem_of_findExact? (found : catalog.findExact? name = some declaration) :
    declaration ∈ catalog.declarations ++ frameworkTypes := by
  unfold findExact? at found
  split at found
  · next stored =>
    cases found
    exact List.mem_append_left _ (List.mem_map.mpr ⟨_, Ordered.mem_of_find? stored, rfl⟩)
  · exact List.mem_append_right _ (List.mem_of_find?_eq_some found)

/-- Every look-up ends in an exact one. -/
theorem exists_findExact?_of_find? (found : catalog.find? name = some declaration) :
    ∃ fullName, catalog.findExact? fullName = some declaration := by
  unfold find? at found
  split at found
  · next foundExactly => exact ⟨name, by rw [foundExactly, found]⟩
  · split at found
    · next fullName only => exact ⟨fullName, found⟩
    · cases found

theorem find?_name (found : catalog.find? name = some declaration) :
    catalog.find? declaration.name = some declaration := by
  rcases exists_findExact?_of_find? found with ⟨fullName, foundExactly⟩
  rw [name_of_findExact? foundExactly]
  simp [find?, foundExactly]

/-- A name only stands for declarations with its last segment. -/
theorem lastSegment_of_find? (found : catalog.find? name = some declaration) :
    QualifiedName.lastSegment declaration.name = QualifiedName.lastSegment name := by
  unfold find? at found
  split at found
  · next foundExactly =>
    cases found
    rw [name_of_findExact? foundExactly]
  · split at found
    · next fullName only =>
      have among : fullName ∈
          catalog.simpleNames.candidates (QualifiedName.lastSegment name) := by
        rw [only]
        exact List.mem_singleton_self fullName
      rw [name_of_findExact? found]
      exact ((catalog.indexed.mem_iff _ _).mp among).2
    · cases found

theorem mem_of_find? (found : catalog.find? name = some declaration) :
    declaration ∈ catalog.declarations ++ frameworkTypes := by
  rcases exists_findExact?_of_find? found with ⟨fullName, foundExactly⟩
  exact mem_of_findExact? foundExactly

end ClientGen.Catalog

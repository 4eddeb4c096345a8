import ClientGen.Proofs.Catalog.Walks
import ClientGen.Proofs.Text.Segment
import Mathlib.Data.List.Nodup

/-!
# Namesakes

A name that is nobody's full name can still be found: it stands for the declaration whose full name
has the same last segment, if there is just one such full name. The index of last segments has each
full name once, so a declaration of the application that has the full name of a framework type
counts with it as one.
-/

namespace ClientGen

open QualifiedName (lastSegment)

namespace Framework.Entry

variable {entry : Entry}

/-- The arity as it stands in the name. -/
def marker (entry : Entry) : String :=
  if entry.arity == 0 then "" else "\x60" ++ toString entry.arity

/-- The last segment of the name is what stands behind the namespace. -/
theorem lastSegment_name (listed : entry ∈ entries) :
    lastSegment entry.declaration.name = entry.segment ++ entry.marker := by
  have plain : (entries.all fun entry => (entry.segment ++ entry.marker).toList.all fun c =>
      c != '.' && c != '+') = true := by
    decide
  have own := List.all_eq_true.mp plain entry listed
  simp only [List.all_eq_true, Bool.and_eq_true, bne_iff_ne] at own
  have noDot : '.' ∉ (entry.segment ++ entry.marker).toList := fun among => (own _ among).1 rfl
  have noPlus : '+' ∉ (entry.segment ++ entry.marker).toList := fun among => (own _ among).2 rfl
  have name : entry.declaration.name.toList =
      entry.space.toList ++ '.' :: (entry.segment ++ entry.marker).toList := by
    have whole : entry.declaration.name =
        entry.space ++ "." ++ entry.segment ++ entry.marker := rfl
    rw [whole]
    simp
  rw [lastSegment, name, Text.afterLast_append_cons noDot, Text.afterLast_of_notMem noPlus,
    String.ofList_toList]

theorem nodup_lastSegments :
    (frameworkTypes.map fun framework => lastSegment framework.name).Nodup := by
  have segments : (frameworkTypes.map fun framework => lastSegment framework.name) =
      entries.map fun entry => entry.segment ++ entry.marker := by
    rw [frameworkTypes, List.map_map]
    exact List.map_congr_left fun entry listed => lastSegment_name listed
  rw [segments]
  decide

end Framework.Entry

namespace Catalog

/-- Whether a full name has the last segment of a name. -/
def Namesake (catalog : Catalog) (name fullName : String) : Prop :=
  fullName ∈ catalog.allNames ∧ lastSegment fullName = lastSegment name

variable {catalog : Catalog} {name fullName : String}

theorem mem_allNames_iff : name ∈ catalog.allNames ↔
    name ∈ frameworkTypes.map (·.name) ∨ name ∈ catalog.entries.map (·.1) := by
  have keys : catalog.declarations.map (·.name) = catalog.entries.map (·.1) := by
    rw [declarations, List.map_map]
    exact List.map_congr_left fun entry stored => (catalog.keyed entry stored).symm
  rw [allNames, List.map_append, keys, List.mem_append, or_comm]

/-- The full names are those that are found exactly. -/
theorem isSome_findExact?_iff : (catalog.findExact? name).isSome ↔ name ∈ catalog.allNames := by
  rw [mem_allNames_iff, ← Ordered.isSome_find?_iff]
  cases stored : Ordered.find? name catalog.entries with
  | some declaration => simp [findExact?, stored]
  | none => simp [findExact?, stored]

/-- The index has the namesakes of a name under its last segment. -/
theorem mem_candidates_iff : fullName ∈ catalog.simpleNames.candidates (lastSegment name) ↔
    catalog.Namesake name fullName := by
  rw [catalog.indexed.mem_iff, Namesake, mem_allNames_iff, List.mem_append]

theorem candidates_eq_singleton_iff :
    catalog.simpleNames.candidates (lastSegment name) = [fullName] ↔
      catalog.Namesake name fullName ∧
        ∀ other, catalog.Namesake name other → other = fullName := by
  simp only [← mem_candidates_iff]
  constructor
  · intro single
    simp [single]
  · rintro ⟨among, only⟩
    rw [← List.perm_singleton, List.perm_ext_iff_of_nodup (catalog.indexed.nodup _)
      (List.nodup_singleton fullName)]
    intro other
    rw [List.mem_singleton]
    constructor
    · exact only other
    · rintro rfl
      exact among

theorem find?_of_isSome_findExact? (exact : (catalog.findExact? name).isSome) :
    catalog.find? name = catalog.findExact? name := by
  rcases Option.isSome_iff_exists.mp exact with ⟨declaration, found⟩
  rw [find?, found]

/-- A name that is no full name stands for its only namesake. -/
theorem find?_of_only (missing : name ∉ catalog.allNames)
    (namesake : catalog.Namesake name fullName)
    (only : ∀ other, catalog.Namesake name other → other = fullName) :
    catalog.find? name = catalog.findExact? fullName := by
  have inexact : catalog.findExact? name = none := by
    rwa [← isSome_findExact?_iff, Option.not_isSome_iff_eq_none] at missing
  have single := candidates_eq_singleton_iff.mpr ⟨namesake, only⟩
  simp only [find?, inexact, single]

/-- Nothing is found for a name that is no full name and has no namesake, or more than one. -/
theorem find?_eq_none_iff : catalog.find? name = none ↔
    name ∉ catalog.allNames ∧ ¬∃! fullName, catalog.Namesake name fullName := by
  by_cases exact : name ∈ catalog.allNames
  · have found := isSome_findExact?_iff.mpr exact
    rw [find?_of_isSome_findExact? found, ← Option.not_isSome_iff_eq_none]
    simp [found, exact]
  · rw [and_iff_right exact]
    constructor
    · rintro unknown ⟨fullName, namesake, only⟩
      have found := isSome_findExact?_iff.mpr namesake.1
      rw [← find?_of_only exact namesake only, unknown] at found
      cases found
    · intro ambiguous
      rw [← isSome_findExact?_iff, Option.not_isSome_iff_eq_none] at exact
      rw [find?, exact]
      dsimp only
      split
      · next fullName single =>
        exact absurd ⟨fullName, candidates_eq_singleton_iff.mp single⟩ ambiguous
      · rfl

/-- A name is looked up as the full name that it is, as its only namesake, or in vain. -/
theorem find?_cases (catalog : Catalog) (name : String) :
    (name ∈ catalog.allNames ∧ catalog.find? name = catalog.findExact? name) ∨
    (name ∉ catalog.allNames ∧ ∃ fullName, catalog.Namesake name fullName ∧
      (∀ other, catalog.Namesake name other → other = fullName) ∧
      catalog.find? name = catalog.findExact? fullName) ∨
    (name ∉ catalog.allNames ∧ (¬∃! fullName, catalog.Namesake name fullName) ∧
      catalog.find? name = none) := by
  by_cases exact : name ∈ catalog.allNames
  · exact .inl ⟨exact, find?_of_isSome_findExact? (isSome_findExact?_iff.mpr exact)⟩
  · by_cases single : ∃! fullName, catalog.Namesake name fullName
    · rcases single with ⟨fullName, namesake, only⟩
      exact .inr (.inl ⟨exact, fullName, namesake, only, find?_of_only exact namesake only⟩)
    · exact .inr (.inr ⟨exact, single, find?_eq_none_iff.mpr ⟨exact, single⟩⟩)

end Catalog

end ClientGen

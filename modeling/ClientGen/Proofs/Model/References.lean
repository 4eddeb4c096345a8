import ClientGen.Proofs.Model.Parts
import ClientGen.Proofs.Model.Sources
import Mathlib.Logic.Relation

/-!
# References between classes

A shape refers to the classes of all its parts, and a class to those that its properties refer to.
What a table adds to another one never takes a reference away: classes come at the end, properties
are filled in where there were none, and locks do not matter. So paths of references stay, and as
long as no class refers to a missing one, new classes are out of reach for whatever was there
before.
-/

namespace ClientGen

open Relation (ReflTransGen)

namespace Shape

variable {ρ σ : Type} {name? : ρ → Option σ}

/-- The classes that a shape refers to: its own, and those of its type arguments and its
alternatives, at whatever depth. -/
def references (shape : Shape ρ) : List ρ :=
  shape.parts.filterMap (·.reference)

theorem references_eq (shape : Shape ρ) :
    shape.references = shape.reference.toList ++
      ((partsOption shape.arguments).filterMap (·.reference) ++
        (partsOption shape.alternatives).filterMap (·.reference)) := by
  rw [references, parts_eq, List.filterMap_cons, List.filterMap_append]
  cases shape.reference <;> rfl

theorem forall₂_filterMap_reference {shapes : List (Shape ρ)} {results : List (Shape σ)}
    (parallel : List.Forall₂ (fun shape result =>
      namedReference? name? shape.reference = some result.reference) shapes results) :
    List.Forall₂ (fun reference name => name? reference = some name)
      (shapes.filterMap (·.reference)) (results.filterMap (·.reference)) := by
  induction parallel with
  | nil => exact .nil
  | @cons shape result _ _ related _ ih =>
    rw [List.filterMap_cons, List.filterMap_cons]
    cases reference : shape.reference with
    | none =>
      rw [reference] at related
      rw [← Option.some.inj related]
      exact ih
    | some place =>
      rw [reference] at related
      rcases Option.map_eq_some_iff.mp related with ⟨name, isNamed, same⟩
      rw [← same]
      exact .cons isNamed ih

theorem forall₂_references_of_named? {shape : Shape ρ} {result : Shape σ}
    (named : shape.named? name? = some result) :
    List.Forall₂ (fun reference name => name? reference = some name) shape.references
      result.references :=
  forall₂_filterMap_reference
    ((forall₂_parts_of_named? shape named).imp fun _ _ => reference_of_named?)

theorem exists_name_of_mem_references {shape : Shape ρ} {result : Shape σ} {reference : ρ}
    (named : shape.named? name? = some result) (among : reference ∈ shape.references) :
    ∃ name ∈ result.references, name? reference = some name :=
  exists_of_mem_left (forall₂_references_of_named? named) among

theorem exists_reference_of_mem_references {shape : Shape ρ} {result : Shape σ} {name : σ}
    (named : shape.named? name? = some result) (among : name ∈ result.references) :
    ∃ reference ∈ shape.references, name? reference = some name :=
  exists_of_mem_right (forall₂_references_of_named? named) among

/-- References that have names are to classes of the table. -/
theorem lt_size_of_mem_references {table : ClassTable ClassId} {shape : Shape ClassId}
    {result : Shape String} {place : ClassId}
    (named : shape.named? table.nameAt? = some result) (among : place ∈ shape.references) :
    place < table.size := by
  rcases exists_name_of_mem_references named among with ⟨name, -, isNamed⟩
  exact ClassTable.lt_size_of_nameAt? isNamed

end Shape

namespace ClassTable

/-- Whether the properties of one class refer to another one. -/
def RefersTo (table : ClassTable ClassId) (holder held : ClassId) : Prop :=
  ∃ entry, table.at? holder = some entry ∧
    ∃ property ∈ entry.properties, held ∈ property.shape.references

/-- Whether a path of references leads from a shape to a class. -/
def LeadsTo (table : ClassTable ClassId) (shape : Shape ClassId) (place : ClassId) : Prop :=
  ∃ start ∈ shape.references, ReflTransGen table.RefersTo start place

/-- Whether no class refers to a missing one. -/
def SelfContained (table : ClassTable ClassId) : Prop :=
  ∀ holder held, table.RefersTo holder held → held < table.size

/-- Whether a table has the classes of another one at their places, but for their locks. -/
def Retains (earlier later : ClassTable ClassId) : Prop :=
  ∀ place entry, earlier.at? place = some entry →
    ∃ isReadOnly, later.at? place = some { entry with isReadOnly }

variable {table earlier middle later : ClassTable ClassId} {holder held start place : ClassId}
  {entry : ClassEntry ClassId} {shape : Shape ClassId}

/-! ### What retains classes -/

namespace Retains

theorem of_grown (grown : earlier.entries <+: later.entries) : earlier.Retains later := by
  intro place entry found
  exact ⟨entry.isReadOnly, at?_of_prefix grown found⟩

theorem of_sameButLocks (same : SameButLocks earlier later) : earlier.Retains later := by
  intro place entry found
  rcases at?_eq_some_iff.mp found with ⟨key, stored⟩
  rcases same place with ⟨isReadOnly, laterStored⟩
  refine ⟨isReadOnly, at?_eq_some_iff.mpr ⟨key, ?_⟩⟩
  rw [laterStored, stored]
  rfl

theorem trans (first : earlier.Retains middle) (second : middle.Retains later) :
    earlier.Retains later := by
  intro place entry found
  rcases first place entry found with ⟨_, between⟩
  rcases second place _ between with ⟨isReadOnly, foundLater⟩
  exact ⟨isReadOnly, foundLater⟩

theorem size_le (retains : earlier.Retains later) : earlier.size ≤ later.size := by
  by_contra smaller
  have within : later.size < earlier.size := Nat.lt_of_not_le smaller
  rcases Option.isSome_iff_exists.mp (isSome_at?_iff.mpr within) with ⟨entry, found⟩
  rcases retains _ entry found with ⟨isReadOnly, foundLater⟩
  rw [at?_eq_none_of_size_le (Nat.le_refl _)] at foundLater
  cases foundLater

theorem refersTo (retains : earlier.Retains later) (refers : earlier.RefersTo holder held) :
    later.RefersTo holder held := by
  rcases refers with ⟨entry, found, property, among, refers⟩
  rcases retains _ _ found with ⟨isReadOnly, foundLater⟩
  exact ⟨_, foundLater, property, among, refers⟩

theorem path (retains : earlier.Retains later) (path : ReflTransGen earlier.RefersTo start place) :
    ReflTransGen later.RefersTo start place :=
  ReflTransGen.mono (fun _ _ => retains.refersTo) _ _ path

theorem leadsTo (retains : earlier.Retains later) (leads : earlier.LeadsTo shape place) :
    later.LeadsTo shape place := by
  rcases leads with ⟨start, among, path⟩
  exact ⟨start, among, retains.path path⟩

theorem refersTo_of_lt (retains : earlier.Retains later) (within : holder < earlier.size)
    (refers : later.RefersTo holder held) : earlier.RefersTo holder held := by
  rcases Option.isSome_iff_exists.mp (isSome_at?_iff.mpr within) with ⟨old, found⟩
  rcases retains _ _ found with ⟨isReadOnly, foundLater⟩
  rcases refers with ⟨entry, foundToo, property, among, refers⟩
  rw [foundLater] at foundToo
  cases foundToo
  exact ⟨old, found, property, among, refers⟩

theorem path_of_lt (retains : earlier.Retains later) (contained : earlier.SelfContained)
    (within : start < earlier.size) (path : ReflTransGen later.RefersTo start place) :
    place < earlier.size ∧ ReflTransGen earlier.RefersTo start place := by
  induction path with
  | refl => exact ⟨within, .refl⟩
  | tail _ last ih =>
    -- The path has not left the old classes so far, and those refer to old classes only.
    have old := retains.refersTo_of_lt ih.1 last
    exact ⟨contained _ _ old, ih.2.tail old⟩

theorem leadsTo_of_forall_lt (retains : earlier.Retains later) (contained : earlier.SelfContained)
    (within : ∀ start ∈ shape.references, start < earlier.size)
    (leads : later.LeadsTo shape place) : place < earlier.size ∧ earlier.LeadsTo shape place := by
  rcases leads with ⟨start, among, path⟩
  rcases retains.path_of_lt contained (within start among) path with ⟨old, oldPath⟩
  exact ⟨old, start, among, oldPath⟩

end Retains

/-! ### Filling in properties -/

/-- A class that has no properties yet loses no reference when it gets some. -/
theorem refersTo_fill {properties : List (ClassProperty ClassId)} {index : ClassId}
    (found : table.at? index = some entry) (none : entry.properties = [])
    (refers : table.RefersTo holder held) : (table.fill index properties).RefersTo holder held := by
  rcases refers with ⟨other, otherFound, property, among, refers⟩
  have different : holder ≠ index := by
    rintro rfl
    rw [found] at otherFound
    cases otherFound
    rw [none] at among
    cases among
  refine ⟨other, ?_, property, among, refers⟩
  rw [at?_fill_of_ne different]
  exact otherFound

end ClassTable

end ClientGen

import ClientGen.Discovery.Basic
import ClientGen.Proofs.Model.Naming

/-!
# Places in place of names

Names can be taken back: if every reference that has a name is the place of that name, a shape that
was written with names becomes what it was. So a shape in a table is settled by its names. The
classes of objects in a shape are found again under their names, one for one.
-/

namespace ClientGen

variable {ρ σ : Type} {name? : ρ → Option σ} {place? : σ → Option ρ}

namespace Shape

theorem namedReference?_undo (undoes : ∀ reference name, name? reference = some name →
    place? name = some reference) {reference : Option ρ} {name : Option σ}
    (named : namedReference? name? reference = some name) :
    namedReference? place? name = some reference := by
  cases reference with
  | none =>
    cases named
    rfl
  | some place =>
    rcases Option.map_eq_some_iff.mp named with ⟨name, found, rfl⟩
    simp [namedReference?, undoes _ _ found]

mutual

theorem named?_undo (undoes : ∀ reference name, name? reference = some name →
    place? name = some reference) :
    ∀ (shape : Shape ρ) {result : Shape σ}, shape.named? name? = some result →
      result.named? place? = some shape
  | ⟨kind, reference, layers, nullable, optional, arguments, parameterName, alternatives⟩, result,
      named => by
    simp only [named?, Option.bind_eq_bind, Option.bind_eq_some_iff, Option.some.injEq] at named
    rcases named with ⟨name, referenceNamed, inner, argumentsNamed, others, alternativesNamed, rfl⟩
    simp only [named?, Option.bind_eq_bind, Option.bind_eq_some_iff]
    exact ⟨reference, namedReference?_undo undoes referenceNamed, arguments,
      namedOption?_undo undoes arguments argumentsNamed, alternatives,
      namedOption?_undo undoes alternatives alternativesNamed, rfl⟩

theorem namedOption?_undo (undoes : ∀ reference name, name? reference = some name →
    place? name = some reference) :
    ∀ (shapes : Option (List (Shape ρ))) {result : Option (List (Shape σ))},
      namedOption? name? shapes = some result → namedOption? place? result = some shapes
  | none, _, named => by
    cases named
    rfl
  | some shapes, _, named => by
    rcases Option.map_eq_some_iff.mp named with ⟨inner, shapesNamed, rfl⟩
    simp [namedOption?, namedList?_undo undoes shapes shapesNamed]

theorem namedList?_undo (undoes : ∀ reference name, name? reference = some name →
    place? name = some reference) :
    ∀ (shapes : List (Shape ρ)) {result : List (Shape σ)},
      namedList? name? shapes = some result → namedList? place? result = some shapes
  | [], _, named => by
    cases named
    rfl
  | shape :: shapes, _, named => by
    simp only [namedList?, Option.bind_eq_bind, Option.bind_eq_some_iff, Option.some.injEq]
      at named
    rcases named with ⟨first, firstNamed, others, othersNamed, rfl⟩
    simp [namedList?, named?_undo undoes shape firstNamed,
      namedList?_undo undoes shapes othersNamed]

end

/-! ### Classes of objects -/

mutual

theorem objectReferences_named? :
    ∀ (shape : Shape ρ) {result : Shape σ}, shape.named? name? = some result →
      List.Forall₂ (fun reference name => name? reference = some name)
        shape.objectReferences result.objectReferences
  | ⟨kind, reference, layers, nullable, optional, arguments, parameterName, alternatives⟩, result,
      named => by
    simp only [named?, Option.bind_eq_bind, Option.bind_eq_some_iff, Option.some.injEq] at named
    rcases named with ⟨name, referenceNamed, inner, argumentsNamed, others, -, rfl⟩
    rw [objectReferences, objectReferences]
    refine List.rel_append ?_ (objectReferencesOption_named? arguments argumentsNamed)
    split
    · cases reference with
      | none =>
        cases referenceNamed
        exact .nil
      | some place =>
        rcases Option.map_eq_some_iff.mp referenceNamed with ⟨own, found, rfl⟩
        exact .cons found .nil
    · exact .nil

theorem objectReferencesOption_named? :
    ∀ (shapes : Option (List (Shape ρ))) {result : Option (List (Shape σ))},
      namedOption? name? shapes = some result →
        List.Forall₂ (fun reference name => name? reference = some name)
          (objectReferencesOption shapes) (objectReferencesOption result)
  | none, _, named => by
    cases named
    exact .nil
  | some shapes, _, named => by
    rcases Option.map_eq_some_iff.mp named with ⟨inner, shapesNamed, rfl⟩
    rw [objectReferencesOption, objectReferencesOption]
    exact objectReferencesList_named? shapes shapesNamed

theorem objectReferencesList_named? :
    ∀ (shapes : List (Shape ρ)) {result : List (Shape σ)}, namedList? name? shapes = some result →
      List.Forall₂ (fun reference name => name? reference = some name)
        (objectReferencesList shapes) (objectReferencesList result)
  | [], _, named => by
    cases named
    exact .nil
  | shape :: shapes, _, named => by
    simp only [namedList?, Option.bind_eq_bind, Option.bind_eq_some_iff, Option.some.injEq]
      at named
    rcases named with ⟨first, firstNamed, others, othersNamed, rfl⟩
    rw [objectReferencesList, objectReferencesList]
    exact List.rel_append (objectReferences_named? shape firstNamed)
      (objectReferencesList_named? shapes othersNamed)

end

end Shape

namespace ClassProperty

theorem named?_undo (undoes : ∀ reference name, name? reference = some name →
    place? name = some reference) {property : ClassProperty ρ} {result : ClassProperty σ}
    (named : property.named? name? = some result) : result.named? place? = some property := by
  rcases Option.map_eq_some_iff.mp named with ⟨shape, shapeNamed, rfl⟩
  simp [named?, Shape.named?_undo undoes _ shapeNamed]

theorem mapM_named?_undo (undoes : ∀ reference name, name? reference = some name →
    place? name = some reference) {properties : List (ClassProperty ρ)}
    {results : List (ClassProperty σ)} (named : properties.mapM (named? name?) = some results) :
    results.mapM (named? place?) = some properties := by
  rw [mapM_eq_some_iff_forall₂] at named ⊢
  refine List.Forall₂.flip (named.imp ?_)
  intro property result propertyNamed
  exact named?_undo undoes propertyNamed

end ClassProperty

/-- In a lawful table a name has the place that it stands at. -/
theorem ClassTable.Lawful.undoes {table : ClassTable ρ} (lawful : table.Lawful) :
    ∀ (place : Nat) (name : String), table.nameAt? place = some name →
      table.indexOf? name = some place :=
  fun _ _ => lawful.indexOf?_of_nameAt?

/-- In a lawful table a shape is settled by its names. -/
theorem ClassTable.Lawful.shape_unique {table : ClassTable ρ} (lawful : table.Lawful)
    {shape other : Shape ClassId} {result : Shape String}
    (named : shape.named? table.nameAt? = some result)
    (otherNamed : other.named? table.nameAt? = some result) : shape = other := by
  have undone := Shape.named?_undo lawful.undoes _ named
  rw [Shape.named?_undo lawful.undoes _ otherNamed] at undone
  exact (Option.some.inj undone).symm

end ClientGen

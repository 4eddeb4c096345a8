import ClientGen.Proofs.Collections.Parallel
import ClientGen.Proofs.Model.Table

/-!
# Names in place of references

A shape in a model refers to classes by their places. To say what a shape means by itself, every
place is replaced by the name of the class at it. `Shape.named?` does so, and fails when a single
reference, at whatever depth, has no name; so a shape that it succeeds on refers to nothing outside
of the table. What it makes of a shape stays the same while the table grows.
-/

namespace ClientGen

variable {ρ σ : Type}

namespace Shape

/-- The name of a reference that may be missing. -/
def namedReference? (name? : ρ → Option σ) : Option ρ → Option (Option σ)
  | none => some none
  | some reference => (name? reference).map some

mutual

/-- The shape with the name of every reference, if all of them have one. -/
def named? (name? : ρ → Option σ) : Shape ρ → Option (Shape σ)
  | ⟨kind, reference, layers, nullable, optional, arguments, parameterName, alternatives⟩ => do
    let reference ← namedReference? name? reference
    let arguments ← namedOption? name? arguments
    let alternatives ← namedOption? name? alternatives
    some ⟨kind, reference, layers, nullable, optional, arguments, parameterName, alternatives⟩

/-- The shapes of a list that may be missing, with names. -/
def namedOption? (name? : ρ → Option σ) : Option (List (Shape ρ)) → Option (Option (List (Shape σ)))
  | none => some none
  | some shapes => (namedList? name? shapes).map some

/-- The shapes of a list, with names. -/
def namedList? (name? : ρ → Option σ) : List (Shape ρ) → Option (List (Shape σ))
  | [] => some []
  | shape :: shapes => do
    let first ← shape.named? name?
    let others ← namedList? name? shapes
    some (first :: others)

end

variable {name? later? : ρ → Option σ}

theorem namedReference?_mono (keeps : ∀ reference name, name? reference = some name →
    later? reference = some name) {reference : Option ρ} {name : Option σ}
    (named : namedReference? name? reference = some name) :
    namedReference? later? reference = some name := by
  cases reference with
  | none => exact named
  | some place =>
    rcases Option.map_eq_some_iff.mp named with ⟨name, found, rfl⟩
    simp [namedReference?, keeps _ _ found]

mutual

theorem named?_mono (keeps : ∀ reference name, name? reference = some name →
    later? reference = some name) :
    ∀ (shape : Shape ρ) {result : Shape σ}, shape.named? name? = some result →
      shape.named? later? = some result
  | ⟨kind, reference, layers, nullable, optional, arguments, parameterName, alternatives⟩, result,
      named => by
    simp only [named?, Option.bind_eq_bind, Option.bind_eq_some_iff] at named ⊢
    rcases named with
      ⟨name, referenceNamed, inner, argumentsNamed, others, alternativesNamed, whole⟩
    exact ⟨name, namedReference?_mono keeps referenceNamed, inner,
      namedOption?_mono keeps arguments argumentsNamed, others,
      namedOption?_mono keeps alternatives alternativesNamed, whole⟩

theorem namedOption?_mono (keeps : ∀ reference name, name? reference = some name →
    later? reference = some name) :
    ∀ (shapes : Option (List (Shape ρ))) {result : Option (List (Shape σ))},
      namedOption? name? shapes = some result → namedOption? later? shapes = some result
  | none, _, named => named
  | some shapes, _, named => by
    rcases Option.map_eq_some_iff.mp named with ⟨inner, shapesNamed, rfl⟩
    simp [namedOption?, namedList?_mono keeps shapes shapesNamed]

theorem namedList?_mono (keeps : ∀ reference name, name? reference = some name →
    later? reference = some name) :
    ∀ (shapes : List (Shape ρ)) {result : List (Shape σ)},
      namedList? name? shapes = some result → namedList? later? shapes = some result
  | [], _, named => named
  | shape :: shapes, _, named => by
    simp only [namedList?, Option.bind_eq_bind, Option.bind_eq_some_iff] at named ⊢
    rcases named with ⟨first, firstNamed, others, othersNamed, whole⟩
    exact ⟨first, named?_mono keeps shape firstNamed, others,
      namedList?_mono keeps shapes othersNamed, whole⟩

end

theorem kind_of_named? {shape : Shape ρ} {result : Shape σ}
    (named : shape.named? name? = some result) : result.kind = shape.kind := by
  cases shape
  simp only [named?, Option.bind_eq_bind, Option.bind_eq_some_iff, Option.some.injEq] at named
  rcases named with ⟨_, _, _, _, _, _, rfl⟩
  rfl

theorem parameterName_of_named? {shape : Shape ρ} {result : Shape σ}
    (named : shape.named? name? = some result) : result.parameterName = shape.parameterName := by
  cases shape
  simp only [named?, Option.bind_eq_bind, Option.bind_eq_some_iff, Option.some.injEq] at named
  rcases named with ⟨_, _, _, _, _, _, rfl⟩
  rfl

theorem reference_of_named? {shape : Shape ρ} {result : Shape σ}
    (named : shape.named? name? = some result) :
    namedReference? name? shape.reference = some result.reference := by
  cases shape
  simp only [named?, Option.bind_eq_bind, Option.bind_eq_some_iff, Option.some.injEq] at named
  rcases named with ⟨_, referenceNamed, _, _, _, _, rfl⟩
  exact referenceNamed

theorem arguments_of_named? {shape : Shape ρ} {result : Shape σ}
    (named : shape.named? name? = some result) :
    namedOption? name? shape.arguments = some result.arguments := by
  cases shape
  simp only [named?, Option.bind_eq_bind, Option.bind_eq_some_iff, Option.some.injEq] at named
  rcases named with ⟨_, _, _, argumentsNamed, _, _, rfl⟩
  exact argumentsNamed

theorem alternatives_of_named? {shape : Shape ρ} {result : Shape σ}
    (named : shape.named? name? = some result) :
    namedOption? name? shape.alternatives = some result.alternatives := by
  cases shape
  simp only [named?, Option.bind_eq_bind, Option.bind_eq_some_iff, Option.some.injEq] at named
  rcases named with ⟨_, _, _, _, _, alternativesNamed, rfl⟩
  exact alternativesNamed

/-- A shape that becomes a union keeps its other names. -/
theorem named?_union {shape : Shape ρ} {result : Shape σ}
    (named : shape.named? name? = some result) {alternatives : List (Shape ρ)}
    {results : List (Shape σ)} (alternativesNamed : namedList? name? alternatives = some results) :
    { shape with kind := .union, alternatives := some alternatives }.named? name? =
      some { result with kind := .union, alternatives := some results } := by
  cases shape
  simp only [named?, Option.bind_eq_bind, Option.bind_eq_some_iff, Option.some.injEq] at named ⊢
  rcases named with ⟨reference, referenceNamed, inner, argumentsNamed, _, _, rfl⟩
  exact ⟨reference, referenceNamed, inner, argumentsNamed, some results,
    by simp [namedOption?, alternativesNamed], rfl⟩

end Shape

namespace ClassProperty

/-- The property with the name of every reference, if all of them have one. -/
def named? (name? : ρ → Option σ) (property : ClassProperty ρ) : Option (ClassProperty σ) :=
  (property.shape.named? name?).map fun shape => { property with shape }

variable {name? later? : ρ → Option σ}

theorem named?_mono (keeps : ∀ reference name, name? reference = some name →
    later? reference = some name) {property : ClassProperty ρ} {result : ClassProperty σ}
    (named : property.named? name? = some result) : property.named? later? = some result := by
  rcases Option.map_eq_some_iff.mp named with ⟨shape, shapeNamed, rfl⟩
  simp [named?, Shape.named?_mono keeps _ shapeNamed]

theorem shape_of_named? {property : ClassProperty ρ} {result : ClassProperty σ}
    (named : property.named? name? = some result) :
    property.shape.named? name? = some result.shape := by
  rcases Option.map_eq_some_iff.mp named with ⟨shape, shapeNamed, rfl⟩
  exact shapeNamed

theorem mapM_named?_cons {property : ClassProperty ρ} {properties : List (ClassProperty ρ)}
    {results : List (ClassProperty σ)} :
    (property :: properties).mapM (named? name?) = some results ↔
      ∃ first, property.named? name? = some first ∧
        ∃ others, properties.mapM (named? name?) = some others ∧ first :: others = results := by
  simp [List.mapM_cons, Option.bind_eq_some_iff]

theorem mapM_named?_mono (keeps : ∀ reference name, name? reference = some name →
    later? reference = some name) {properties : List (ClassProperty ρ)}
    {results : List (ClassProperty σ)} (named : properties.mapM (named? name?) = some results) :
    properties.mapM (named? later?) = some results :=
  mapM_mono (fun _ _ => named?_mono keeps) named

/-- Every property of a list has its name among the results. -/
theorem exists_of_mapM_named? {properties : List (ClassProperty ρ)}
    {results : List (ClassProperty σ)} (named : properties.mapM (named? name?) = some results)
    {property : ClassProperty ρ} (present : property ∈ properties) :
    ∃ result ∈ results, property.named? name? = some result :=
  exists_of_mem_left (mapM_eq_some_iff_forall₂.mp named) present

end ClassProperty

/-- What a class is made of, with the name of every reference, if all of them have one. -/
def ClassBody.named? (name? : ρ → Option σ) : ClassBody ρ → Option (ClassBody σ)
  | .object properties => (properties.mapM (ClassProperty.named? name?)).map .object
  | .enum values => some (.enum values)

theorem ClassBody.named?_mono {name? later? : ρ → Option σ}
    (keeps : ∀ reference name, name? reference = some name → later? reference = some name)
    {body : ClassBody ρ} {result : ClassBody σ} (named : body.named? name? = some result) :
    body.named? later? = some result := by
  cases body with
  | object properties =>
    rcases Option.map_eq_some_iff.mp named with ⟨results, propertiesNamed, rfl⟩
    simp [named?, ClassProperty.mapM_named?_mono keeps propertiesNamed]
  | enum values => exact named

namespace ClassEntry

/-- The class with the name of every reference, if all of them have one. -/
def named? (name? : ρ → Option σ) (entry : ClassEntry ρ) : Option (ClassEntry σ) :=
  (entry.body.named? name?).map fun body => { entry with body }

variable {name? later? : ρ → Option σ} {entry : ClassEntry ρ} {result : ClassEntry σ}

theorem named?_mono (keeps : ∀ reference name, name? reference = some name →
    later? reference = some name) (named : entry.named? name? = some result) :
    entry.named? later? = some result := by
  rcases Option.map_eq_some_iff.mp named with ⟨body, bodyNamed, rfl⟩
  simp [named?, ClassBody.named?_mono keeps bodyNamed]

/-- A lock does not matter for the names. -/
theorem named?_unlocked (named : entry.named? name? = some result) (isReadOnly : Bool) :
    { entry with isReadOnly }.named? name? = some { result with isReadOnly } := by
  rcases Option.map_eq_some_iff.mp named with ⟨body, bodyNamed, rfl⟩
  simp [named?, bodyNamed]

theorem isReadOnly_of_named? (named : entry.named? name? = some result) :
    result.isReadOnly = entry.isReadOnly := by
  rcases Option.map_eq_some_iff.mp named with ⟨body, -, rfl⟩
  rfl

theorem name_of_named? (named : entry.named? name? = some result) : result.name = entry.name := by
  rcases Option.map_eq_some_iff.mp named with ⟨body, -, rfl⟩
  rfl

theorem sourceName_of_named? (named : entry.named? name? = some result) :
    result.sourceName = entry.sourceName := by
  rcases Option.map_eq_some_iff.mp named with ⟨body, -, rfl⟩
  rfl

theorem genericParameters_of_named? (named : entry.named? name? = some result) :
    result.genericParameters = entry.genericParameters := by
  rcases Option.map_eq_some_iff.mp named with ⟨body, -, rfl⟩
  rfl

theorem body_of_named? (named : entry.named? name? = some result) :
    entry.body.named? name? = some result.body := by
  rcases Option.map_eq_some_iff.mp named with ⟨body, bodyNamed, rfl⟩
  exact bodyNamed

end ClassEntry

end ClientGen

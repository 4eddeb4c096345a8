import ClientGen.Model.Validate
import ClientGen.Proofs.Model.Naming

/-!
# The parts of a shape

A shape has other shapes inside, as type arguments and as alternatives, and these have others again.
Validation goes through all of them, so a model is valid if and only if every part of each of its
shapes refers to a class of the table, or refers to none and needs none. A shape whose references
all have names, of which none is missing where it is needed, has only such parts.
-/

namespace ClientGen

namespace Shape

variable {ρ σ : Type}

mutual

/-- A shape and those inside it. -/
def parts : Shape ρ → List (Shape ρ)
  | ⟨kind, reference, layers, nullable, optional, arguments, parameterName, alternatives⟩ =>
    ⟨kind, reference, layers, nullable, optional, arguments, parameterName, alternatives⟩ ::
      (partsOption arguments ++ partsOption alternatives)

/-- The parts of the shapes of a list that may be missing. -/
def partsOption : Option (List (Shape ρ)) → List (Shape ρ)
  | none => []
  | some shapes => partsList shapes

/-- The parts of the shapes of a list. -/
def partsList : List (Shape ρ) → List (Shape ρ)
  | [] => []
  | shape :: shapes => shape.parts ++ partsList shapes

end

theorem parts_eq (shape : Shape ρ) :
    shape.parts = shape :: (partsOption shape.arguments ++ partsOption shape.alternatives) := by
  cases shape
  rw [parts]

theorem mem_parts_self (shape : Shape ρ) : shape ∈ shape.parts := by
  rw [parts_eq]
  exact List.mem_cons_self

theorem partsList_eq_flatMap (shapes : List (Shape ρ)) :
    partsList shapes = shapes.flatMap parts := by
  induction shapes with
  | nil => rfl
  | cons shape shapes ih => rw [partsList, ih, List.flatMap_cons]

/-- Whether a shape refers to a class if it needs one. -/
def HasClass (shape : Shape ρ) : Prop :=
  shape.needsClass = true → shape.reference.isSome

/-- Whether a shape refers to one of so many classes, or refers to none and needs none. -/
structure Refers (size : Nat) (shape : Shape ClassId) : Prop where
  present : shape.HasClass
  within : ∀ id, shape.reference = some id → id < size

theorem refers_iff {size : Nat} {shape : Shape ClassId} : shape.Refers size ↔
    shape.HasClass ∧ ∀ id, shape.reference = some id → id < size := by
  constructor
  · intro refers
    exact ⟨refers.present, refers.within⟩
  · intro both
    exact ⟨both.1, both.2⟩

theorem checkReference_eq_ok_iff {table : ClassTable ClassId} {shape : Shape ClassId} :
    shape.checkReference table = .ok () ↔ shape.Refers table.size := by
  unfold checkReference checkedReference
  cases reference : shape.reference with
  | none =>
    cases needs : shape.needsClass <;> simp [refers_iff, HasClass, reference, needs]
  | some id =>
    by_cases within : id < table.size
    · simp [refers_iff, HasClass, reference, ClassTable.isSome_at?_iff, within]
    · simp [refers_iff, HasClass, reference, ClassTable.isSome_at?_iff, within]

/-- Two checks go well one after the other if both do. -/
theorem bind_eq_ok_iff {first : Except Failure Unit} {next : Unit → Except Failure Unit} :
    first >>= next = .ok () ↔ first = .ok () ∧ next () = .ok () := by
  cases first <;> simp [bind, Except.bind]

variable {table : ClassTable ClassId}

mutual

theorem validate_eq_ok_iff :
    ∀ shape : Shape ClassId,
      shape.validate table = .ok () ↔ ∀ part ∈ shape.parts, part.Refers table.size
  | ⟨kind, reference, layers, nullable, optional, arguments, parameterName, alternatives⟩ => by
    rw [validate, parts, List.forall_mem_cons, List.forall_mem_append]
    simp only [bind_eq_ok_iff, checkReference_eq_ok_iff, validateOption_eq_ok_iff arguments,
      validateOption_eq_ok_iff alternatives]
    simp [refers_iff, HasClass, needsClass]

theorem validateOption_eq_ok_iff :
    ∀ shapes : Option (List (Shape ClassId)),
      validateOption table shapes = .ok () ↔ ∀ part ∈ partsOption shapes, part.Refers table.size
  | none => by simp [validateOption, partsOption]
  | some shapes => by
    rw [validateOption, partsOption]
    exact validateList_eq_ok_iff shapes

theorem validateList_eq_ok_iff :
    ∀ shapes : List (Shape ClassId),
      validateList table shapes = .ok () ↔ ∀ part ∈ partsList shapes, part.Refers table.size
  | [] => by simp [validateList, partsList]
  | shape :: shapes => by
    rw [validateList, partsList]
    simp only [bind_eq_ok_iff, validate_eq_ok_iff shape, validateList_eq_ok_iff shapes]
    simp [or_imp, forall_and]

end

/-! ### Parts of shapes with names -/

variable {name? : ρ → Option σ}

theorem refers_of_namedReference? {shape : Shape ClassId} {result : Shape String}
    (sameKind : result.kind = shape.kind)
    (named : namedReference? table.nameAt? shape.reference = some result.reference)
    (hasClass : result.HasClass) : shape.Refers table.size := by
  cases reference : shape.reference with
  | none =>
    rw [reference, namedReference?, Option.some.injEq] at named
    refine ⟨?_, by simp [reference]⟩
    intro needs
    rw [needsClass, ← sameKind] at needs
    have present := hasClass needs
    rw [← named] at present
    cases present
  | some id =>
    rw [reference] at named
    rcases Option.map_eq_some_iff.mp named with ⟨name, found, -⟩
    constructor
    · intro _
      simp [reference]
    · intro other same
      rw [reference, Option.some.injEq] at same
      subst same
      exact ClassTable.lt_size_of_nameAt? found

mutual

/-- The parts of a shape have names one for one. -/
theorem forall₂_parts_of_named? :
    ∀ (shape : Shape ρ) {result : Shape σ}, shape.named? name? = some result →
      List.Forall₂ (fun part outlined => part.named? name? = some outlined) shape.parts
        result.parts
  | ⟨kind, reference, layers, nullable, optional, arguments, parameterName, alternatives⟩, result,
      named => by
    have inside := named
    simp only [named?, Option.bind_eq_bind, Option.bind_eq_some_iff, Option.some.injEq] at inside
    rcases inside with ⟨name, -, inner, argumentsNamed, others, alternativesNamed, rfl⟩
    rw [parts, parts]
    exact .cons named (List.rel_append
      (forall₂_partsOption_of_named? arguments argumentsNamed)
      (forall₂_partsOption_of_named? alternatives alternativesNamed))

theorem forall₂_partsOption_of_named? :
    ∀ (shapes : Option (List (Shape ρ))) {result : Option (List (Shape σ))},
      namedOption? name? shapes = some result →
        List.Forall₂ (fun part outlined => part.named? name? = some outlined)
          (partsOption shapes) (partsOption result)
  | none, _, named => by
    cases named
    exact .nil
  | some shapes, _, named => by
    rcases Option.map_eq_some_iff.mp named with ⟨inner, shapesNamed, rfl⟩
    exact forall₂_partsList_of_named? shapes shapesNamed

theorem forall₂_partsList_of_named? :
    ∀ (shapes : List (Shape ρ)) {result : List (Shape σ)},
      namedList? name? shapes = some result →
        List.Forall₂ (fun part outlined => part.named? name? = some outlined)
          (partsList shapes) (partsList result)
  | [], _, named => by
    cases named
    exact .nil
  | shape :: shapes, _, named => by
    simp only [namedList?, Option.bind_eq_bind, Option.bind_eq_some_iff, Option.some.injEq] at named
    rcases named with ⟨first, firstNamed, others, othersNamed, rfl⟩
    rw [partsList, partsList]
    exact List.rel_append (forall₂_parts_of_named? shape firstNamed)
      (forall₂_partsList_of_named? shapes othersNamed)

end

/-- What holds of the parts of a shape with names holds of the parts of the shape, if it carries
over from one to the other. -/
theorem forall_parts_of_named? {good : Shape ρ → Prop} {goodToo : Shape σ → Prop}
    (carries : ∀ part outlined, part.named? name? = some outlined → goodToo outlined → good part)
    {shape : Shape ρ} {result : Shape σ} (named : shape.named? name? = some result)
    (all : ∀ part ∈ result.parts, goodToo part) : ∀ part ∈ shape.parts, good part := by
  intro part inside
  rcases exists_of_mem_left (forall₂_parts_of_named? shape named) inside with
    ⟨outlined, insideToo, partNamed⟩
  exact carries part outlined partNamed (all outlined insideToo)

theorem refers_of_named? (shape : Shape ClassId) {result : Shape String}
    (named : shape.named? table.nameAt? = some result)
    (hasClass : ∀ part ∈ result.parts, part.HasClass) :
    ∀ part ∈ shape.parts, part.Refers table.size := by
  refine forall_parts_of_named? ?_ named hasClass
  intro part outlined partNamed outlinedHasClass
  exact refers_of_namedReference? (kind_of_named? partNamed) (reference_of_named? partNamed)
    outlinedHasClass

end Shape

end ClientGen

import ClientGen.TypeScript.Scope
import ClientGen.Proofs.Model.Parts
import ClientGen.Proofs.TypeScript.Leaves

/-!
# What the types of shapes are made of

The type of a shape is made of words that every client knows, of the names of generic parameters,
and of what the scope writes for the classes of the parts of the shape. So whatever is asked of all
that a type is made of is asked of the parts of the shape, one by one: this is what a scope grants
for a shape.

There is a gap wherever the scope does not find the class of a part. So the type of a shape has none
if the scope covers the shape: if it finds the class of every part that needs one. Validation makes
sure of that, because a reference to a class of the table is all it takes to find the class.
-/

namespace ClientGen.TypeScript.Scope

variable {scope : Scope} {shape : Shape ClassId}

/-- Whether the classes of all parts of a shape are found. -/
def Covers (scope : Scope) (shape : Shape ClassId) : Prop :=
  ∀ part ∈ shape.parts, part.needsClass = true → ∃ entry, scope.classOf part = .ok entry

theorem exists_classOf_of_refers (refers : shape.Refers scope.table.size)
    (needs : shape.needsClass = true) : ∃ entry, scope.classOf shape = .ok entry := by
  rcases Option.isSome_iff_exists.mp (refers.present needs) with ⟨id, reference⟩
  rcases Option.isSome_iff_exists.mp
    (ClassTable.isSome_at?_iff.mpr (refers.within id reference)) with ⟨entry, found⟩
  refine ⟨entry, ?_⟩
  simp [classOf, Shape.checkedReference, reference, found, bind, Except.bind]

/-- A scope covers every shape of a valid model. -/
theorem covers_of_valid {model : ServiceModel ClassId} (valid : model.validate = .ok ())
    (sameTable : scope.table = model.types) (among : shape ∈ model.shapes) :
    scope.Covers shape := by
  rw [ServiceModel.validate, Shape.validateList_eq_ok_iff, Shape.partsList_eq_flatMap,
    ← sameTable] at valid
  intro part inside needs
  exact exists_classOf_of_refers (valid part (List.mem_flatMap.mpr ⟨shape, among, inside⟩)) needs

/-! ### Parts of shapes -/

/-- The words in types that are not names of generic parameters. -/
def plainWords : List String :=
  ["boolean", "number", "string", "Date", "any"]

/-- Whether what a scope writes for a shape, leaving aside the shapes inside it, is good. -/
structure Yields (scope : Scope) (good : ClientType → Prop) (part : Shape ClassId) : Prop where
  parameter : part.kind = .genericParameter → ∀ name ∈ part.parameterName, good (.word name)
  ownClass : part.needsClass = true → ∀ live, good (scope.classType live part)

/-- Whether all that a scope writes for a shape is good. -/
structure Grants (scope : Scope) (good : ClientType → Prop) (shape : Shape ClassId) : Prop where
  words : ∀ name ∈ plainWords, good (.word name)
  parts : ∀ part ∈ shape.parts, scope.Yields good part

variable {good : ClientType → Prop}

@[simp]
theorem leaves_classType {live : Bool} :
    (scope.classType live shape).leaves = [scope.classType live shape] := by
  rw [classType_eq]
  split
  · split <;> rfl
  · rfl

/-- The wrapper of a shape is what is written for its class where it is live. -/
theorem classType_of_wrapper? {type : ClientType} (wrapped : scope.wrapper? shape = some type) :
    shape.kind = .object ∧ scope.classType true shape = type := by
  rw [wrapper?_eq] at wrapped
  split at wrapped
  · next isObject =>
    refine ⟨isObject, ?_⟩
    rw [classType_eq]
    split at wrapped
    · split at wrapped
      · next hasWrapper =>
        cases wrapped
        simp [hasWrapper]
      · cases wrapped
    · cases wrapped
      rfl
  · cases wrapped

theorem leaves_inLayers (layers : List Layer) (base : ClientType) :
    (ClientType.inLayers layerType layers base).leaves = base.leaves := by
  induction layers with
  | nil => rfl
  | cons layer layers ih =>
    rw [← ih]
    cases layer <;> rfl

theorem leaves_orNull (nullable : Bool) (type : ClientType) :
    (if nullable then .orNull type else type : ClientType).leaves = type.leaves := by
  cases nullable <;> rfl

theorem madeOf_word {name : String} (isGood : good (.word name)) :
    (ClientType.word name).MadeOf good := by
  simpa [ClientType.MadeOf, ClientType.leaves] using isGood

/-! ### Types -/

mutual

theorem madeOf_typeOf (words : ∀ name ∈ plainWords, good (.word name)) (live : Bool) :
    ∀ shape : Shape ClassId, (∀ part ∈ shape.parts, scope.Yields good part) →
      (scope.typeOf live shape).MadeOf good
  | ⟨kind, reference, layers, nullable, optional, arguments, parameterName, alternatives⟩,
      yields => by
    rw [Shape.parts, List.forall_mem_cons, List.forall_mem_append] at yields
    rcases yields with ⟨own, insideArguments, insideAlternatives⟩
    have argumentsMade := madeOf_typesOfOption words false arguments insideArguments
    have alternativesMade := madeOf_typesOfOption words live alternatives insideAlternatives
    rw [typeOf_mk, ClientType.MadeOf]
    simp only [leaves_orNull, leaves_inLayers]
    cases kind with
    | object =>
      have classGood : good (scope.classType live { kind := .object, reference }) :=
        own.ownClass rfl live
      cases made : scope.typesOfOption false arguments with
      | none => simpa [made] using classGood
      | some types =>
        simp only [ClientType.leaves, leaves_classType, List.singleton_append,
          List.forall_mem_cons]
        exact ⟨classGood, argumentsMade types made⟩
    | enum =>
      have classGood : good (scope.classType false { kind := .enum, reference }) :=
        own.ownClass rfl false
      simpa using classGood
    | union =>
      cases made : scope.typesOfOption live alternatives with
      | none => exact madeOf_word (words "any" (by decide))
      | some types =>
        cases types with
        | nil => exact madeOf_word (words "any" (by decide))
        | cons first others => exact alternativesMade _ made
    | genericParameter =>
      cases parameterName with
      | none => exact madeOf_word (words "any" (by decide))
      | some name => exact madeOf_word (own.parameter rfl name rfl)
    | dateTime =>
      cases live with
      | true => exact madeOf_word (words "Date" (by decide))
      | false => exact madeOf_word (words "string" (by decide))
    | any => exact madeOf_word (words "any" (by decide))
    | boolean => exact madeOf_word (words "boolean" (by decide))
    | string | guid | timeSpan => exact madeOf_word (words "string" (by decide))
    | _ => exact madeOf_word (words "number" (by decide))

theorem madeOf_typesOfOption (words : ∀ name ∈ plainWords, good (.word name)) (live : Bool) :
    ∀ shapes : Option (List (Shape ClassId)),
      (∀ part ∈ Shape.partsOption shapes, scope.Yields good part) →
        ∀ types, scope.typesOfOption live shapes = some types →
          ∀ leaf ∈ ClientType.leavesOfAll types, good leaf
  | none, _, _, made => by cases made
  | some shapes, yields, _, made => by
    rw [typesOfOption_some] at made
    cases made
    exact madeOf_typesOf words live shapes yields

theorem madeOf_typesOf (words : ∀ name ∈ plainWords, good (.word name)) (live : Bool) :
    ∀ shapes : List (Shape ClassId),
      (∀ part ∈ Shape.partsList shapes, scope.Yields good part) →
        ∀ leaf ∈ ClientType.leavesOfAll (scope.typesOf live shapes), good leaf
  | [], _ => by simp [typesOf_nil, ClientType.leavesOfAll]
  | shape :: shapes, yields => by
    rw [Shape.partsList, List.forall_mem_append] at yields
    rw [typesOf_cons, ClientType.leavesOfAll, List.forall_mem_append]
    exact ⟨madeOf_typeOf words live shape yields.1, madeOf_typesOf words live shapes yields.2⟩

end

namespace Grants

variable (grants : scope.Grants good shape)

include grants

theorem typeOf (live : Bool) : (scope.typeOf live shape).MadeOf good :=
  madeOf_typeOf grants.words live shape grants.parts

theorem elementType (live : Bool) : (scope.elementType live shape).MadeOf good := by
  have yields := grants.parts
  rw [Shape.parts_eq, List.forall_mem_cons] at yields
  refine madeOf_typeOf grants.words live _ ?_
  rw [Shape.parts_eq, List.forall_mem_cons]
  exact ⟨⟨yields.1.parameter, yields.1.ownClass⟩, yields.2⟩

theorem wrapper? {type : ClientType} (wrapped : scope.wrapper? shape = some type) :
    type.MadeOf good := by
  rcases classType_of_wrapper? wrapped with ⟨isObject, rfl⟩
  have needs : shape.needsClass = true := by simp [Shape.needsClass, isObject]
  simpa [ClientType.MadeOf] using
    (grants.parts shape shape.mem_parts_self).ownClass needs true

end Grants

/-! ### Gaps -/

theorem isWhole_classType {live : Bool} (found : ∃ entry, scope.classOf shape = .ok entry) :
    (scope.classType live shape).IsWhole := by
  rcases found with ⟨entry, found⟩
  rw [classType_eq, found]
  simp only
  split <;> rfl

/-- The types of a shape that is covered have no gaps. -/
theorem Covers.grants (covers : scope.Covers shape) : scope.Grants ClientType.IsWhole shape where
  words _ _ := rfl
  parts part inside :=
    { parameter := fun _ _ _ => rfl
      ownClass := fun needs _ => isWhole_classType (covers part inside needs) }

end ClientGen.TypeScript.Scope

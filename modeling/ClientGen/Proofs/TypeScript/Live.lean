import ClientGen.Proofs.TypeScript.Scope

/-!
# Live types

Where a type describes the content of observables there are dates, and wrappers in the place of
objects. Type arguments always describe plain values, so only what a type is made of outside of them
tells whether there is anything live in it. If there is nothing, then the type is the plain one:
dates and wrappers are all the difference.
-/

namespace ClientGen.TypeScript

namespace ClientType

mutual

/-- The words, classes and gaps in a type that are not in type arguments. -/
def outerLeaves : ClientType → List ClientType
  | .word name => [.word name]
  | .named home name => [.named home name]
  | .apply head _ => head.outerLeaves
  | .array element => element.outerLeaves
  | .dictionary value => value.outerLeaves
  | .union alternatives => outerLeavesOfAll alternatives
  | .orNull type => type.outerLeaves
  | .gap failure => [.gap failure]

/-- The words, classes and gaps in some types that are not in type arguments. -/
def outerLeavesOfAll : List ClientType → List ClientType
  | [] => []
  | type :: types => type.outerLeaves ++ outerLeavesOfAll types

end

theorem outerLeavesOfAll_eq_flatMap (types : List ClientType) :
    outerLeavesOfAll types = types.flatMap outerLeaves := by
  induction types with
  | nil => rfl
  | cons type types ih => rw [outerLeavesOfAll, ih, List.flatMap_cons]

end ClientType

namespace Scope

variable {scope : Scope} {shape : Shape ClassId}

/-- Whether a leaf of a type is a date or a wrapper. -/
def IsLive (scope : Scope) (leaf : ClientType) : Prop :=
  leaf = .word "Date" ∨
    ∃ entry ∈ scope.table.classes, scope.hasWrapper entry = true ∧ leaf = scope.wrapperType entry

/-- Whether there are dates or wrappers in a type outside of type arguments. -/
def HoldsLive (scope : Scope) (type : ClientType) : Prop :=
  ∃ leaf ∈ type.outerLeaves, scope.IsLive leaf

/-! ### Layers -/

theorem outerLeaves_inLayers (layers : List Layer) (base : ClientType) :
    (ClientType.inLayers layerType layers base).outerLeaves = base.outerLeaves := by
  induction layers with
  | nil => rfl
  | cons layer layers ih =>
    rw [← ih]
    cases layer <;> rfl

theorem outerLeaves_orNull (nullable : Bool) (type : ClientType) :
    (if nullable then .orNull type else type : ClientType).outerLeaves = type.outerLeaves := by
  cases nullable <;> rfl

/-! ### Nothing live -/

theorem classOf_mem {entry : ClassEntry ClassId} (found : scope.classOf shape = .ok entry) :
    entry ∈ scope.table.classes := by
  unfold classOf at found
  cases reference : shape.checkedReference with
  | error failure => simp [reference, bind, Except.bind] at found
  | ok id? =>
    cases id? with
    | none => simp [reference, bind, Except.bind] at found
    | some id =>
      cases place : scope.table.at? id with
      | none => simp [reference, place, bind, Except.bind] at found
      | some other =>
        simp only [reference, place, bind, Except.bind, Except.ok.injEq] at found
        subst found
        rcases Option.map_eq_some_iff.mp place with ⟨pair, among, rfl⟩
        exact List.mem_map_of_mem (List.mem_of_getElem? among)

theorem isLive_wrapperType {entry : ClassEntry ClassId} (found : scope.classOf shape = .ok entry)
    (wrapped : scope.hasWrapper entry = true) : scope.IsLive (scope.wrapperType entry) :=
  .inr ⟨entry, classOf_mem found, wrapped, rfl⟩

/-- What is written for a class where it is live is plain if it is not a wrapper. -/
theorem classType_eq_of_not_isLive (notLive : ¬ scope.IsLive (scope.classType true shape)) :
    scope.classType true shape = scope.classType false shape := by
  rw [classType_eq] at notLive
  rw [classType_eq, classType_eq]
  cases found : scope.classOf shape with
  | error failure => rfl
  | ok entry =>
    cases wrapped : scope.hasWrapper entry with
    | false => simp [wrapped]
    | true =>
      simp only [found, wrapped, Bool.and_self, if_true] at notLive
      exact absurd (isLive_wrapperType found wrapped) notLive

@[simp]
theorem outerLeaves_classType {live : Bool} :
    (scope.classType live shape).outerLeaves = [scope.classType live shape] := by
  rw [classType_eq]
  split
  · split <;> rfl
  · rfl

mutual

/-- A type with nothing live in it is the plain one. -/
theorem typeOf_eq_of_not_holdsLive :
    ∀ shape : Shape ClassId, ¬ scope.HoldsLive (scope.typeOf true shape) →
      scope.typeOf true shape = scope.typeOf false shape
  | ⟨kind, reference, layers, nullable, optional, arguments, parameterName, alternatives⟩,
      notLive => by
    rw [HoldsLive, typeOf_mk] at notLive
    simp only [outerLeaves_orNull, outerLeaves_inLayers] at notLive
    rw [typeOf_mk, typeOf_mk]
    cases kind with
    | object =>
      have classPlain : scope.classType true { kind := .object, reference } =
          scope.classType false { kind := .object, reference } := by
        apply classType_eq_of_not_isLive
        intro live
        apply notLive
        refine ⟨_, ?_, live⟩
        cases scope.typesOfOption false arguments <;> simp [ClientType.outerLeaves]
      rw [classPlain]
    | dateTime =>
      refine absurd ⟨.word "Date", ?_, .inl rfl⟩ notLive
      simp [ClientType.outerLeaves]
    | union =>
      have alternativesPlain :
          scope.typesOfOption true alternatives = scope.typesOfOption false alternatives := by
        cases alternatives with
        | none => rfl
        | some shapes =>
          have same : scope.typesOf true shapes = scope.typesOf false shapes := by
            apply typesOf_eq_of_not_holdsLive shapes
            rintro ⟨leaf, among, live⟩
            apply notLive
            refine ⟨leaf, ?_, live⟩
            cases shapes with
            | nil => simp [typesOf_nil, ClientType.outerLeavesOfAll] at among
            | cons first others =>
              rw [typesOf_cons] at among
              rw [typesOfOption_some, typesOf_cons]
              exact among
          rw [typesOfOption_some, typesOfOption_some, same]
      rw [alternativesPlain]
    | _ => rfl

theorem typesOf_eq_of_not_holdsLive :
    ∀ shapes : List (Shape ClassId),
      (¬ ∃ leaf ∈ ClientType.outerLeavesOfAll (scope.typesOf true shapes), scope.IsLive leaf) →
        scope.typesOf true shapes = scope.typesOf false shapes
  | [], _ => rfl
  | shape :: shapes, notLive => by
    simp only [typesOf_cons, ClientType.outerLeavesOfAll, List.mem_append, not_exists, not_and,
      or_imp, forall_and] at notLive
    rw [typesOf_cons, typesOf_cons,
      typeOf_eq_of_not_holdsLive shape fun ⟨leaf, among, live⟩ => notLive.1 leaf among live,
      typesOf_eq_of_not_holdsLive shapes fun ⟨leaf, among, live⟩ => notLive.2 leaf among live]

end

theorem classType_eq_of_unwrapped (isObject : shape.kind = .object)
    (notWrapped : scope.wrapper? shape = none) :
    scope.classType true shape = scope.classType false shape := by
  rw [wrapper?_eq, if_pos isObject] at notWrapped
  rw [classType_eq, classType_eq]
  cases found : scope.classOf shape with
  | error failure => rfl
  | ok entry =>
    cases wrapped : scope.hasWrapper entry with
    | false => simp [wrapped]
    | true => simp [found, wrapped] at notWrapped

/-- Only dates, objects in wrappers and unions have a type of their own where they are live. -/
theorem typeOf_eq_of_unwrapped (notDate : shape.kind ≠ .dateTime) (notUnion : shape.kind ≠ .union)
    (notWrapped : scope.wrapper? shape = none) :
    scope.typeOf true shape = scope.typeOf false shape := by
  have classPlain := fun isObject => classType_eq_of_unwrapped isObject notWrapped
  rcases shape with ⟨kind, reference, layers, nullable, optional, arguments, name, alternatives⟩
  rw [typeOf_mk, typeOf_mk]
  cases kind with
  | object =>
    have same : scope.classType true { kind := .object, reference } =
        scope.classType false { kind := .object, reference } := classPlain rfl
    rw [same]
  | dateTime => exact absurd rfl notDate
  | union => exact absurd rfl notUnion
  | _ => rfl

/-! ### Something live -/

theorem outerLeaves_typeOf_of_dateTime (isDate : shape.kind = .dateTime) :
    (scope.typeOf true shape).outerLeaves = [.word "Date"] := by
  rcases shape with ⟨kind, reference, layers, nullable, optional, arguments, name, alternatives⟩
  cases isDate
  rw [typeOf_mk]
  simp [outerLeaves_orNull, outerLeaves_inLayers, ClientType.outerLeaves]

theorem outerLeaves_typeOf_of_object (live : Bool) (isObject : shape.kind = .object) :
    (scope.typeOf live shape).outerLeaves = [scope.classType live shape] := by
  rcases shape with ⟨kind, reference, layers, nullable, optional, arguments, name, alternatives⟩
  cases isObject
  rw [typeOf_mk]
  have same : scope.classType live { kind := .object, reference } = scope.classType live
      ⟨.object, reference, layers, nullable, optional, arguments, name, alternatives⟩ := rfl
  rw [← same, outerLeaves_orNull, outerLeaves_inLayers]
  cases scope.typesOfOption false arguments <;> simp [ClientType.outerLeaves]

theorem isLive_word_iff {name : String} : scope.IsLive (.word name) ↔ name = "Date" := by
  constructor
  · rintro (isDate | ⟨entry, -, -, isWrapper⟩)
    · exact ClientType.word.inj isDate
    · cases isWrapper
  · intro isDate
    exact .inl (congrArg ClientType.word isDate)

theorem typesOf_eq_map (live : Bool) (shapes : List (Shape ClassId)) :
    scope.typesOf live shapes = shapes.map (scope.typeOf live) := by
  induction shapes with
  | nil => rfl
  | cons shape shapes ih => rw [typesOf_cons, ih, List.map_cons]

/-- What is live in a union is live in one of its alternatives. -/
theorem holdsLive_typeOf_of_union (isUnion : shape.kind = .union) :
    scope.HoldsLive (scope.typeOf true shape) ↔
      ∃ alternative ∈ shape.alternatives.getD [],
        scope.HoldsLive (scope.typeOf true alternative) := by
  rcases shape with ⟨kind, reference, layers, nullable, optional, arguments, name, alternatives⟩
  cases isUnion
  rw [HoldsLive, typeOf_mk]
  simp only [outerLeaves_orNull, outerLeaves_inLayers]
  cases alternatives with
  | none => simp [typesOfOption_none, ClientType.outerLeaves, isLive_word_iff]
  | some shapes =>
    cases shapes with
    | nil => simp [typesOfOption_some, typesOf_nil, ClientType.outerLeaves, isLive_word_iff]
    | cons first others =>
      rw [typesOfOption_some, typesOf_cons]
      simp only [ClientType.outerLeaves]
      rw [← typesOf_cons, typesOf_eq_map, ClientType.outerLeavesOfAll_eq_flatMap]
      simp only [Option.getD_some, List.mem_flatMap, List.mem_map]
      constructor
      · rintro ⟨leaf, ⟨-, ⟨alternative, among, rfl⟩, inside⟩, live⟩
        exact ⟨alternative, among, leaf, inside, live⟩
      · rintro ⟨alternative, among, leaf, inside, live⟩
        exact ⟨leaf, ⟨_, ⟨alternative, among, rfl⟩, inside⟩, live⟩

end Scope

end ClientGen.TypeScript

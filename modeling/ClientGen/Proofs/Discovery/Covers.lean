import ClientGen.Discovery.Meaning
import ClientGen.Proofs.Catalog.Contracts

/-!
# What is around the core of an expression

Whatever a catalog declares, a type expression is a core under covers: containers, and wrappers of
values that may be null or left out. At every step there is at most one cover to take off, so the
covers of an expression form one list, and the layers and the marks of its meaning can be read off
that list. The proof follows the covers inwards and ends at an expression that is its own core.

The mark for null that an expression is written with is no cover: it comes off first, whatever the
catalog says about its name.
-/

namespace ClientGen

open QualifiedName (lastSegment)

/-- What can be taken off a type expression. -/
inductive Cover where
  | container (layer : Layer)
  | optional
  | nullable
  deriving DecidableEq

namespace Cover

/-- The layer that a cover becomes, if it is a container. -/
def layer? : Cover → Option Layer
  | .container layer => some layer
  | .optional => none
  | .nullable => none

@[simp]
theorem layer?_container (layer : Layer) : (container layer).layer? = some layer := rfl

@[simp]
theorem layer?_optional : optional.layer? = none := rfl

@[simp]
theorem layer?_nullable : nullable.layer? = none := rfl

/-- Where the expression under a cover stands. -/
def beneath (place : Place) (cover : Cover) : Place :=
  if cover.layer? = none ∧ place ≠ .inside then .outside else .inside

/-- What a cover at a place adds to the meaning of what is under it. -/
def add (place : Place) (meaning : Meaning) : Cover → Meaning
  | .container layer => meaning.within layer
  | .optional => meaning.orAbsent
  | .nullable => meaning.orNull (place != .inside)

theorem beneath_ne_top (place : Place) (cover : Cover) : cover.beneath place ≠ .top := by
  unfold beneath
  split <;> simp

theorem beneath_bne (place : Place) (cover : Cover) :
    (cover.beneath place != .inside) = (place != .inside && decide (cover.layer? = none)) := by
  cases cover <;> cases place <;> rfl

end Cover

namespace Catalog

/-- Whether a generic type with a number of arguments is a sequence or a dictionary. -/
def IsContainer (catalog : Catalog) (name : String) (count : Nat) : Prop :=
  catalog.implements name sequenceContracts = true ∨
    2 ≤ count ∧ catalog.implements name dictionaryContracts = true

/-- Which of the arguments of a sequence are its elements. -/
def elementPosition (catalog : Catalog) (name : String) (count : Nat) : Nat :=
  let position := (catalog.contractPosition? name sequenceContracts).getD 0
  if position < count then position else 0

/-- Whether an expression is a cover around another one. -/
inductive Peels (catalog : Catalog) : TypeExpr → Cover → TypeExpr → Prop
  | array {element : TypeExpr} : Peels catalog (.array element) (.container .array) element
  | dictionary {name : String} {args : List TypeExpr} {value : TypeExpr}
      (isDictionary : catalog.implements name dictionaryContracts = true)
      (second : args[1]? = some value) :
      Peels catalog (.named name args) (.container .dictionary) value
  | sequence {name : String} {args : List TypeExpr} {element : TypeExpr}
      (isSequence : catalog.implements name sequenceContracts = true)
      (noDictionary : 2 ≤ args.length → catalog.implements name dictionaryContracts = false)
      (chosen : args[catalog.elementPosition name args.length]? = some element) :
      Peels catalog (.named name args) (.container .array) element
  | optional {name : String} {inner : TypeExpr} {others : List TypeExpr}
      (isOptional : lastSegment name = optionalWrapper)
      (noContainer : ¬catalog.IsContainer name (others.length + 1)) :
      Peels catalog (.named name (inner :: others)) .optional inner
  | nullable {inner : TypeExpr} {others : List TypeExpr}
      (noContainer : ¬catalog.IsContainer TypeExpr.nullableName (others.length + 1)) :
      Peels catalog (.named TypeExpr.nullableName (inner :: others)) .nullable inner

/-- Whether an expression is some covers, from outside, around another one. -/
inductive Unpacks (catalog : Catalog) : TypeExpr → List Cover → TypeExpr → Prop
  | nil {type : TypeExpr} : Unpacks catalog type [] type
  | cons {outer inner core : TypeExpr} {cover : Cover} {covers : List Cover}
      (peels : catalog.Peels outer cover inner) (others : Unpacks catalog inner covers core) :
      Unpacks catalog outer (cover :: covers) core

/-- Whether an expression has no cover. -/
def IsBare (catalog : Catalog) (type : TypeExpr) : Prop :=
  ∀ cover inner, ¬catalog.Peels type cover inner

variable {catalog : Catalog} {name : String} {args : List TypeExpr} {type inner : TypeExpr}
  {cover : Cover} {place : Place}

theorem lastSegment_nullableName : lastSegment TypeExpr.nullableName = "Nullable\x601" := by
  decide

theorem nullableName_ne_optional : lastSegment TypeExpr.nullableName ≠ optionalWrapper := by
  rw [lastSegment_nullableName]
  decide

/-! ### Taking one cover off -/

theorem elementPosition_one : catalog.elementPosition name 1 = 0 := by
  dsimp only [elementPosition]
  split <;> omega

theorem wrapping_of_dictionary {count : Nat} (several : 2 ≤ count)
    (isDictionary : catalog.implements name dictionaryContracts = true) :
    catalog.wrapping name count = .container .dictionary 1 := by
  have some : count ≠ 0 := by omega
  simp [wrapping, some, several, isDictionary]

theorem wrapping_of_sequence {count : Nat} (some : count ≠ 0)
    (isSequence : catalog.implements name sequenceContracts = true)
    (noDictionary : 2 ≤ count → catalog.implements name dictionaryContracts = false) :
    catalog.wrapping name count = .container .array (catalog.elementPosition name count) := by
  have notBoth : (decide (2 ≤ count) && catalog.implements name dictionaryContracts) = false := by
    by_cases several : 2 ≤ count
    · simp [noDictionary several]
    · simp [several]
  simp [wrapping, some, notBoth, isSequence, elementPosition]

theorem wrapping_of_not_isContainer {count : Nat}
    (noContainer : ¬catalog.IsContainer name (count + 1)) :
    catalog.wrapping name (count + 1) =
      if lastSegment name == optionalWrapper then .optional
      else if name == TypeExpr.nullableName then .nullable
      else .none := by
  simp only [IsContainer, not_or, not_and, Bool.not_eq_true] at noContainer
  have notBoth :
      (decide (2 ≤ count + 1) && catalog.implements name dictionaryContracts) = false := by
    by_cases several : 2 ≤ count + 1
    · simp [noContainer.2 several]
    · simp [several]
  rw [wrapping, if_neg (by simp), notBoth, if_neg Bool.false_ne_true, noContainer.1,
    if_neg Bool.false_ne_true]

theorem meaningOfNth_of_getElem? {position : Nat} (chosen : args[position]? = some inner) :
    catalog.meaningOfNth place position args = catalog.meaningAt place inner := by
  induction args generalizing position with
  | nil => simp at chosen
  | cons first others ih =>
    cases position with
    | zero =>
      cases chosen
      rw [meaningOfNth]
    | succ position =>
      rw [meaningOfNth]
      exact ih chosen

/-- Apart from the first mark for null, what a named type means depends on what it is taken for. -/
theorem meaningAt_named
    (other : ¬(place = .top ∧ name = TypeExpr.nullableName ∧ args.length = 1)) :
    catalog.meaningAt place (.named name args) =
      match catalog.wrapping name args.length with
      | .container layer position => (catalog.meaningOfNth .inside position args).within layer
      | .optional => (catalog.meaningOfNth (Cover.optional.beneath place) 0 args).orAbsent
      | .nullable =>
        (catalog.meaningOfNth (Cover.nullable.beneath place) 0 args).orNull (place != .inside)
      | .none => .ofCore (catalog.coreOf name (catalog.meanings args)) := by
  rw [meaningAt, if_neg other]
  cases place <;> rfl

/-- A cover adds its own to the meaning of what is under it. -/
theorem meaningAt_of_peels (peels : catalog.Peels type cover inner)
    (unmarked : place = .top → ∀ whole, type ≠ .nullable whole) :
    catalog.meaningAt place type = cover.add place (catalog.meaningAt (cover.beneath place) inner) := by
  have other {name : String} {args : List TypeExpr} (same : type = .named name args) :
      ¬(place = .top ∧ name = TypeExpr.nullableName ∧ args.length = 1) := by
    rintro ⟨isTop, rfl, single⟩
    rcases List.length_eq_one_iff.mp single with ⟨whole, rfl⟩
    exact unmarked isTop whole same
  cases peels with
  | array =>
    rw [meaningAt]
    rfl
  | dictionary isDictionary second =>
    have several := (List.getElem?_eq_some_iff.mp second).1
    rw [meaningAt_named (other rfl), wrapping_of_dictionary several isDictionary]
    simp only [meaningOfNth_of_getElem? second]
    rfl
  | sequence isSequence noDictionary chosen =>
    have several := (List.getElem?_eq_some_iff.mp chosen).1
    rw [meaningAt_named (other rfl), wrapping_of_sequence (by omega) isSequence noDictionary]
    simp only [meaningOfNth_of_getElem? chosen]
    rfl
  | optional isOptional noContainer =>
    rw [meaningAt_named (other rfl), List.length_cons, wrapping_of_not_isContainer noContainer,
      if_pos (by simpa using isOptional)]
    rfl
  | nullable noContainer =>
    rw [meaningAt_named (other rfl), List.length_cons, wrapping_of_not_isContainer noContainer,
      if_neg (by simpa using nullableName_ne_optional)]
    rfl

theorem exists_peels_of_isContainer (isContainer : catalog.IsContainer name args.length)
    (given : args ≠ []) :
    ∃ layer inner, catalog.Peels (.named name args) (.container layer) inner := by
  by_cases dictionary : 2 ≤ args.length ∧ catalog.implements name dictionaryContracts = true
  · have second : args[1]? = some args[1] := List.getElem?_eq_getElem dictionary.1
    exact ⟨_, _, .dictionary dictionary.2 second⟩
  · have isSequence := isContainer.resolve_right dictionary
    have inRange : catalog.elementPosition name args.length < args.length := by
      have positive := List.length_pos_iff.mpr given
      unfold elementPosition
      dsimp only
      split <;> omega
    refine ⟨_, _, .sequence isSequence ?_ (List.getElem?_eq_getElem inRange)⟩
    intro several
    simpa using fun isDictionary => dictionary ⟨several, isDictionary⟩

/-- A named type without covers is taken for nothing but itself. -/
theorem meaningAt_of_isBare (bare : catalog.IsBare (.named name args)) :
    catalog.meaningAt place (.named name args) =
      .ofCore (catalog.coreOf name (catalog.meanings args)) := by
  cases args with
  | nil =>
    rw [meaningAt_named (by simp)]
    rfl
  | cons first others =>
    have noContainer : ¬catalog.IsContainer name (others.length + 1) := by
      intro isContainer
      rcases exists_peels_of_isContainer isContainer (List.cons_ne_nil first others) with
        ⟨layer, inner, peels⟩
      exact bare _ inner peels
    have notOptional : lastSegment name ≠ optionalWrapper := fun isOptional =>
      bare _ _ (.optional isOptional noContainer)
    have notNullable : name ≠ TypeExpr.nullableName := by
      rintro rfl
      exact bare _ _ (.nullable noContainer)
    rw [meaningAt_named (fun both => notNullable both.2.1), List.length_cons,
      wrapping_of_not_isContainer noContainer, if_neg (by simpa using notOptional),
      if_neg (by simpa using notNullable)]

/-- An expression without covers means its core, wherever it stands. -/
theorem exists_core_of_isBare (bare : catalog.IsBare type) :
    ∃ content : Core, ∀ place, catalog.meaningAt place type = .ofCore content := by
  cases type with
  | array element => exact absurd .array (bare _ element)
  | parameter parameter => exact ⟨.parameter parameter, fun place => by rw [meaningAt]⟩
  | void => exact ⟨.plain .any, fun place => by rw [meaningAt]⟩
  | named name args => exact ⟨_, fun place => meaningAt_of_isBare bare⟩

/-! ### Taking all covers off -/

theorem Peels.sizeOf_lt (peels : catalog.Peels type cover inner) : sizeOf inner < sizeOf type := by
  have among {name : String} {args : List TypeExpr} (isArgument : inner ∈ args) :
      sizeOf inner < sizeOf (TypeExpr.named name args) := by
    have smaller := List.sizeOf_lt_of_mem isArgument
    simp only [TypeExpr.named.sizeOf_spec]
    omega
  cases peels with
  | array => simp
  | dictionary isDictionary second => exact among (List.mem_of_getElem? second)
  | sequence isSequence noDictionary chosen => exact among (List.mem_of_getElem? chosen)
  | optional isOptional noContainer => exact among List.mem_cons_self
  | nullable noContainer => exact among List.mem_cons_self

theorem Peels.isContainer {layer : Layer}
    (peels : catalog.Peels (.named name args) (.container layer) inner) :
    catalog.IsContainer name args.length := by
  cases peels with
  | dictionary isDictionary second =>
    exact Or.inr ⟨(List.getElem?_eq_some_iff.mp second).1, isDictionary⟩
  | sequence isSequence _ _ => exact Or.inl isSequence

/-- A named type is bare unless it is a container or a wrapper of its arguments. -/
theorem isBare_named_iff (noWrapper : args ≠ [] →
    lastSegment name ≠ optionalWrapper ∧ name ≠ TypeExpr.nullableName) :
    catalog.IsBare (.named name args) ↔ (args ≠ [] → ¬catalog.IsContainer name args.length) := by
  constructor
  · intro bare given isContainer
    rcases exists_peels_of_isContainer isContainer given with ⟨layer, inner, peels⟩
    exact bare _ inner peels
  · intro noContainer cover inner peels
    have given : args ≠ [] := by
      rintro rfl
      cases peels with
      | dictionary isDictionary second => cases second
      | sequence isSequence noDictionary chosen => cases chosen
    cases peels with
    | dictionary isDictionary second =>
      exact noContainer given (Peels.dictionary isDictionary second).isContainer
    | sequence isSequence noDictionary chosen =>
      exact noContainer given (Peels.sequence isSequence noDictionary chosen).isContainer
    | optional isOptional _ => exact (noWrapper given).1 isOptional
    | nullable _ => exact (noWrapper given).2 rfl

/-- There is at most one cover to take off. -/
theorem Peels.unique {other : Cover} {otherInner : TypeExpr}
    (peels : catalog.Peels type cover inner) (peelsToo : catalog.Peels type other otherInner) :
    cover = other ∧ inner = otherInner := by
  cases peels with
  | array =>
    cases peelsToo
    exact ⟨rfl, rfl⟩
  | dictionary isDictionary second =>
    have several := (List.getElem?_eq_some_iff.mp second).1
    have isContainer := (Peels.dictionary isDictionary second).isContainer
    cases peelsToo with
    | dictionary _ secondToo => exact ⟨rfl, Option.some.inj (second.symm.trans secondToo)⟩
    | sequence _ noDictionary _ => simp [noDictionary several] at isDictionary
    | optional _ noContainer => exact absurd isContainer noContainer
    | nullable noContainer => exact absurd isContainer noContainer
  | sequence isSequence noDictionary chosen =>
    have isContainer := (Peels.sequence isSequence noDictionary chosen).isContainer
    cases peelsToo with
    | dictionary isDictionary second =>
      simp [noDictionary (List.getElem?_eq_some_iff.mp second).1] at isDictionary
    | sequence _ _ chosenToo => exact ⟨rfl, Option.some.inj (chosen.symm.trans chosenToo)⟩
    | optional _ noContainer => exact absurd isContainer noContainer
    | nullable noContainer => exact absurd isContainer noContainer
  | optional isOptional noContainer =>
    cases peelsToo with
    | dictionary isDictionary second =>
      exact absurd (Peels.dictionary isDictionary second).isContainer noContainer
    | sequence isSequence noDictionary chosen =>
      exact absurd (Peels.sequence isSequence noDictionary chosen).isContainer noContainer
    | optional _ _ => exact ⟨rfl, rfl⟩
    | nullable _ => exact absurd isOptional nullableName_ne_optional
  | nullable noContainer =>
    cases peelsToo with
    | dictionary isDictionary second =>
      exact absurd (Peels.dictionary isDictionary second).isContainer noContainer
    | sequence isSequence noDictionary chosen =>
      exact absurd (Peels.sequence isSequence noDictionary chosen).isContainer noContainer
    | optional isOptional _ => exact absurd isOptional nullableName_ne_optional
    | nullable _ => exact ⟨rfl, rfl⟩

variable {covers front : List Cover} {core : TypeExpr}

/-- What is taken off from outside is a part of the covers of an expression. -/
theorem Unpacks.prefix_of_isBare (unpacks : catalog.Unpacks type covers core)
    (bare : catalog.IsBare core) (partly : catalog.Unpacks type front inner) :
    front <+: covers := by
  induction unpacks generalizing front with
  | nil =>
    cases partly with
    | nil => exact List.prefix_refl _
    | cons peels _ => exact absurd peels (bare _ _)
  | cons peels _ ih =>
    cases partly with
    | nil => exact List.nil_prefix
    | cons peelsToo others =>
      rcases peels.unique peelsToo with ⟨rfl, rfl⟩
      exact List.cons_prefix_cons.mpr ⟨rfl, ih bare others⟩

theorem Unpacks.exists_of_prefix (unpacks : catalog.Unpacks type covers core)
    (isPrefix : front <+: covers) : ∃ inner, catalog.Unpacks type front inner := by
  induction unpacks generalizing front with
  | nil =>
    rw [List.prefix_nil.mp isPrefix]
    exact ⟨_, .nil⟩
  | cons peels _ ih =>
    cases front with
    | nil => exact ⟨_, .nil⟩
    | cons cover front =>
      rcases List.cons_prefix_cons.mp isPrefix with ⟨rfl, inside⟩
      rcases ih inside with ⟨inner, others⟩
      exact ⟨inner, .cons peels others⟩

/-- An expression has a core, and its meaning is that of the core with what the covers add: the
containers become layers, and the marks are set. -/
theorem exists_unpacks (type : TypeExpr) : ∃ covers core content, catalog.Unpacks type covers core ∧
    catalog.IsBare core ∧ ∀ place, (place = .top → ∀ whole, type ≠ .nullable whole) →
      catalog.meaningAt place type = .mk (covers.filterMap Cover.layer?)
        (place != .inside && decide (.nullable ∈ covers.takeWhile (·.layer? = none)))
        (decide (.optional ∈ covers)) content := by
  by_cases bare : catalog.IsBare type
  · rcases exists_core_of_isBare bare with ⟨content, means⟩
    refine ⟨[], type, content, .nil, bare, fun place _ => ?_⟩
    rw [means place]
    simp [Meaning.ofCore]
  · simp only [IsBare, not_forall, not_not] at bare
    rcases bare with ⟨cover, inner, peels⟩
    have smaller := peels.sizeOf_lt
    rcases exists_unpacks inner with ⟨covers, core, content, unpacks, bareCore, means⟩
    refine ⟨cover :: covers, core, content, .cons peels unpacks, bareCore, fun place unmarked => ?_⟩
    have below : cover.beneath place = .top → ∀ whole, inner ≠ .nullable whole :=
      fun isTop => absurd isTop (cover.beneath_ne_top place)
    rw [meaningAt_of_peels peels unmarked, means _ below, Cover.beneath_bne]
    cases cover with
    | container layer => simp [Cover.add, Meaning.within]
    | optional => simp [Cover.add, Meaning.orAbsent, List.filterMap_cons]
    | nullable => cases place <;> simp [Cover.add, Meaning.orNull, List.filterMap_cons]
termination_by sizeOf type

theorem meaning_of_container {layer : Layer} (peels : catalog.Peels type (.container layer) inner)
    (unmarked : ∀ whole, type ≠ .nullable whole) :
    catalog.meaning type = (catalog.meaningAt .inside inner).within layer :=
  meaningAt_of_peels peels fun _ => unmarked

/-! ### The mark for null -/

theorem meaning_nullable :
    catalog.meaning (.nullable inner) = (catalog.meaningAt .outside inner).orNull true := by
  rw [meaning, TypeExpr.nullable, meaningAt, if_pos (by simp), meaningOfNth]

theorem meaning_of_unmarked (unmarked : ∀ whole, type ≠ .nullable whole) :
    catalog.meaning type = catalog.meaningAt .outside type := by
  rcases catalog.exists_unpacks type with ⟨covers, core, content, -, -, means⟩
  rw [meaning, means .top fun _ => unmarked, means .outside fun isTop => nomatch isTop]
  rfl

end Catalog

end ClientGen

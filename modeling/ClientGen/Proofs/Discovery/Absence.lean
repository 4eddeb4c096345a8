import ClientGen.Discovery.Actions
import ClientGen.Proofs.Discovery.Containers
import Mathlib.Data.List.TakeWhile

/-!
# Members that may be left out

Both marks of a shape come from wrappers in the type expression. The mark for null is set by a
wrapper outside every container, so a list of values that may be null is not null itself. The mark
for values that may be left out is set by a wrapper wherever it stands among the covers, so a list
of such values may be left out as well, and a query parameter of such a list is not required.
-/

namespace ClientGen

open QualifiedName (lastSegment)

/-- The expression without the mark for null that it is written with. -/
def TypeExpr.unmarked : TypeExpr → TypeExpr
  | .named name [inner] => if name = nullableName then inner else .named name [inner]
  | type => type

theorem TypeExpr.unmarked_of_ne {type : TypeExpr} (unmarked : ∀ whole, type ≠ .nullable whole) :
    type.unmarked = type := by
  unfold TypeExpr.unmarked
  split
  · next name inner =>
    rw [if_neg]
    rintro rfl
    exact unmarked inner rfl
  · rfl

namespace Catalog

/-- Whether a cover occurs in an expression, right under some others. -/
def Occurs (catalog : Catalog) (cover : Cover) (around : List Cover) (type : TypeExpr) : Prop :=
  ∃ inner, catalog.Unpacks type.unmarked (around ++ [cover]) inner

/-- Whether a cover occurs outside every container. -/
def OccursOutside (catalog : Catalog) (cover : Cover) (type : TypeExpr) : Prop :=
  ∃ around, catalog.Occurs cover around type ∧ ∀ other ∈ around, other.layer? = none

/-- Whether a cover occurs in a container. -/
def OccursInside (catalog : Catalog) (cover : Cover) (type : TypeExpr) : Prop :=
  ∃ around, catalog.Occurs cover around type ∧ ∃ other ∈ around, other.layer? ≠ none

variable {catalog : Catalog} {type core : TypeExpr} {cover : Cover} {covers around : List Cover}

theorem occurs_iff (unpacks : catalog.Unpacks type.unmarked covers core)
    (bare : catalog.IsBare core) : catalog.Occurs cover around type ↔ around ++ [cover] <+: covers :=
  ⟨fun ⟨_, partly⟩ => unpacks.prefix_of_isBare bare partly, unpacks.exists_of_prefix⟩

theorem exists_occurs_iff (unpacks : catalog.Unpacks type.unmarked covers core)
    (bare : catalog.IsBare core) :
    (catalog.OccursOutside cover type ∨ catalog.OccursInside cover type) ↔ cover ∈ covers := by
  constructor
  · rintro (⟨around, occurs, -⟩ | ⟨around, occurs, -⟩) <;>
      exact ((occurs_iff unpacks bare).mp occurs).subset (by simp)
  · intro among
    rcases List.append_of_mem among with ⟨around, others, rfl⟩
    have occurs : catalog.Occurs cover around type := by
      rw [occurs_iff unpacks bare]
      exact ⟨others, by simp⟩
    by_cases outside : ∀ other ∈ around, other.layer? = none
    · exact Or.inl ⟨around, occurs, outside⟩
    · simp only [not_forall] at outside
      rcases outside with ⟨other, isAround, isContainer⟩
      exact Or.inr ⟨around, occurs, other, isAround, isContainer⟩

/-- The covers outside every container are those before the first container. -/
theorem occursOutside_iff (unpacks : catalog.Unpacks type.unmarked covers core)
    (bare : catalog.IsBare core) (noContainer : cover.layer? = none) :
    catalog.OccursOutside cover type ↔ cover ∈ covers.takeWhile (·.layer? = none) := by
  constructor
  · rintro ⟨around, occurs, outside⟩
    rcases (occurs_iff unpacks bare).mp occurs with ⟨others, rfl⟩
    have all : ∀ other ∈ around ++ [cover], decide (other.layer? = none) = true := by
      intro other among
      rcases List.mem_append.mp among with isAround | isLast
      · exact decide_eq_true (outside other isAround)
      · rw [List.mem_singleton.mp isLast]
        exact decide_eq_true noContainer
    rw [List.takeWhile_append_of_pos all]
    simp
  · intro among
    rcases List.append_of_mem among with ⟨around, others, split⟩
    have isPrefix : around ++ [cover] <+: covers := by
      refine List.IsPrefix.trans ⟨others, ?_⟩ (List.takeWhile_prefix (·.layer? = none))
      rw [split]
      simp
    refine ⟨around, (occurs_iff unpacks bare).mpr isPrefix, fun other isAround => ?_⟩
    have outside : other ∈ covers.takeWhile (·.layer? = none) := by
      rw [split]
      exact List.mem_append_left _ isAround
    simpa using List.mem_takeWhile_imp outside

/-- The mark for null that an expression is written with comes off first. -/
theorem exists_mark (type : TypeExpr) : ∃ mark : Bool,
    (mark = true ↔ ∃ inner, type = .nullable inner) ∧
      catalog.meaning type = (catalog.meaningAt .outside type.unmarked).orNull mark := by
  by_cases marked : ∃ inner, type = .nullable inner
  · rcases marked with ⟨inner, rfl⟩
    have stripped : (TypeExpr.nullable inner).unmarked = inner := by
      simp [TypeExpr.nullable, TypeExpr.unmarked]
    refine ⟨true, by simp, ?_⟩
    rw [stripped, meaning_nullable]
  · simp only [not_exists] at marked
    refine ⟨false, by simp [marked], ?_⟩
    rw [TypeExpr.unmarked_of_ne marked, meaning_of_unmarked marked]
    cases catalog.meaningAt .outside type
    rfl

/-- Both marks of an expression. -/
theorem exists_meaning (type : TypeExpr) : ∃ layers nullable optional content,
    catalog.meaning type = .mk layers nullable optional content ∧
      (nullable = true ↔
        (∃ inner, type = .nullable inner) ∨ catalog.OccursOutside .nullable type) ∧
      (optional = true ↔
        catalog.OccursOutside .optional type ∨ catalog.OccursInside .optional type) := by
  rcases catalog.exists_unpacks type.unmarked with ⟨covers, core, content, unpacks, bare, means⟩
  rcases catalog.exists_mark type with ⟨mark, isMark, whole⟩
  rw [whole, means .outside fun isTop => nomatch isTop, Meaning.orNull]
  refine ⟨_, _, _, _, rfl, ?_, ?_⟩
  · have outside : (Place.outside != .inside) = true := rfl
    rw [outside, Bool.true_and, Bool.or_eq_true, decide_eq_true_iff, isMark,
      occursOutside_iff unpacks bare Cover.layer?_nullable]
  · rw [decide_eq_true_iff, exists_occurs_iff unpacks bare]

end Catalog

namespace Server

theorem isRequired_of_query {ρ : Type} (server : Server) {bindings : List (String × Bool)}
    {parameter : Parameter} {shape : Shape ρ}
    (isQuery : (server.bind bindings parameter shape).1 = .query) :
    (server.bind bindings parameter shape).2 =
      ((Constraints.ofAttributes parameter.attributes).required ||
        !(parameter.isOptional || parameter.nullable || shape.nullable || shape.optional)) := by
  simp only [bind] at isQuery ⊢
  split at isQuery
  · cases isQuery
  · split at isQuery
    · next fromQuery => rw [if_pos fromQuery]
    · next notFromQuery =>
      split at isQuery
      · cases isQuery
      · next notBody => rw [if_neg notFromQuery, if_neg notBody]

theorem position_readParameter (server : Server) {version : Option String}
    {bindings : List (String × Bool)} {doc : Option MemberDoc} {parameter : Parameter}
    {discovery : Discovery} :
    (server.readParameter version bindings doc parameter discovery).1.position =
      (server.bind bindings parameter
        (discovery.resolve server [] version parameter.nullable parameter.type).1).1 :=
  rfl

/-- A container goes into the query, if the parameter says nothing else. -/
theorem bind_eq_query {ρ : Type} (server : Server) {bindings : List (String × Bool)}
    {parameter : Parameter} {shape : Shape ρ}
    (unbound : Ordered.find? (Text.lower parameter.name) bindings = none)
    (notBody : parameter.isFromBody = false) (isContainer : shape.layers ≠ []) :
    (server.bind bindings parameter shape).1 = .query := by
  simp only [bind, unbound]
  split
  · rfl
  · simp [notBody, Shape.isPlainObject, isContainer]

end Server

namespace Discovery

variable {server : Server} {opened : List String} {version : Option String} {nullable : Bool}
  {type : TypeExpr} {discovery : Discovery}

theorem nullable_resolve_iff :
    (discovery.resolve server opened version nullable type).1.nullable = true ↔
      nullable = true ∨ (∃ inner, type = .nullable inner) ∨
        server.catalog.OccursOutside .nullable type := by
  rcases server.catalog.exists_meaning type with ⟨layers, mark, optional, content, means, isMark, -⟩
  rw [resolve, means, Meaning.orNull, Meaning.place]
  dsimp only
  rw [Bool.or_eq_true, isMark]

theorem optional_resolve_iff :
    (discovery.resolve server opened version nullable type).1.optional = true ↔
      server.catalog.OccursOutside .optional type ∨ server.catalog.OccursInside .optional type := by
  rcases server.catalog.exists_meaning type with
    ⟨layers, mark, optional, content, means, -, isOptional⟩
  rw [resolve, means, Meaning.orNull, Meaning.place]
  exact isOptional

theorem isRequired_readParameter_iff {bindings : List (String × Bool)} {doc : Option MemberDoc}
    {parameter : Parameter}
    (isQuery : (server.readParameter version bindings doc parameter discovery).1.position = .query) :
    (server.readParameter version bindings doc parameter discovery).1.isRequired = false ↔
      (Constraints.ofAttributes parameter.attributes).required = false ∧
        (parameter.isOptional = true ∨ parameter.nullable = true ∨
          (∃ inner, parameter.type = .nullable inner) ∨
          server.catalog.OccursOutside .nullable parameter.type ∨
          server.catalog.OccursOutside .optional parameter.type ∨
          server.catalog.OccursInside .optional parameter.type) := by
  let shape := (discovery.resolve server [] version parameter.nullable parameter.type).1
  have required : (server.readParameter version bindings doc parameter discovery).1.isRequired =
      ((Constraints.ofAttributes parameter.attributes).required ||
        !(parameter.isOptional || parameter.nullable || shape.nullable || shape.optional)) :=
    server.isRequired_of_query isQuery
  have isNullable : shape.nullable = true ↔ _ := nullable_resolve_iff
  have isOptional : shape.optional = true ↔ _ := optional_resolve_iff
  rw [required, Bool.or_eq_false_iff, Bool.not_eq_false', Bool.or_eq_true, Bool.or_eq_true,
    Bool.or_eq_true, isNullable, isOptional]
  simp only [or_assoc, or_self_left]

/-- Null is allowed for a member if its declaration allows it or a wrapper outside every container
says so. A wrapper of values that may be left out counts for the member in a container as well, and
then also makes a query parameter one that is not required. -/
theorem marks_of_member (server : Server) (discovery : Discovery) :
    (∀ (opened : List String) (version : Option String) (nullable : Bool) (type : TypeExpr),
      let shape := (discovery.resolve server opened version nullable type).1
      (shape.nullable = true ↔ nullable = true ∨ (∃ inner, type = .nullable inner) ∨
        server.catalog.OccursOutside .nullable type) ∧
      (shape.optional = true ↔ server.catalog.OccursOutside .optional type ∨
        server.catalog.OccursInside .optional type)) ∧
    ∀ (version : Option String) (bindings : List (String × Bool)) (doc : Option MemberDoc)
      (parameter : Parameter),
      (server.readParameter version bindings doc parameter discovery).1.position = .query →
      ((server.readParameter version bindings doc parameter discovery).1.isRequired = false ↔
        (Constraints.ofAttributes parameter.attributes).required = false ∧
          (parameter.isOptional = true ∨ parameter.nullable = true ∨
            (∃ inner, parameter.type = .nullable inner) ∨
            server.catalog.OccursOutside .nullable parameter.type ∨
            server.catalog.OccursOutside .optional parameter.type ∨
            server.catalog.OccursInside .optional parameter.type)) := by
  constructor
  · intro opened version nullable type
    exact ⟨nullable_resolve_iff, optional_resolve_iff⟩
  · intro version bindings doc parameter isQuery
    exact isRequired_readParameter_iff isQuery

/-- A server without any declarations. -/
def bareServer : Server where
  catalog := .empty
  convention := .mvc

theorem leavesContainers_bare : bareServer.catalog.LeavesContainers := by
  constructor
  · intro declaration declared
    cases declared
  · intro declaration declared
    cases declared

/-- A number that may be left out. -/
def optionalCode : TypeExpr := .named "Optional\x601" [.named "System.Int32" []]

/-- A parameter for a list of such numbers. -/
def codes : Parameter where
  name := "codes"
  type := .named "List\x601" [optionalCode]

theorem peels_codes :
    bareServer.catalog.Peels codes.type (.container .array) optionalCode := by
  have isFramework : Shell.IsFramework 1 "List\x601" := by
    rw [Shell.isFramework_iff]
    decide
  have isSequence := Catalog.implements_sequence leavesContainers_bare.framework isFramework
  refine .sequence isSequence (by simp) ?_
  rw [List.length_singleton, Catalog.elementPosition_one]
  rfl

theorem occursInside_codes : bareServer.catalog.OccursInside .optional codes.type := by
  have isOptional : lastSegment "Optional\x601" = optionalWrapper := by
    decide
  have noContainer : bareServer.catalog.IsNoContainer "Optional\x601" := by
    apply Catalog.isNoContainer_of_wrapper leavesContainers_bare
    rw [isOptional]
    exact List.mem_cons_self
  have peels : bareServer.catalog.Peels optionalCode .optional (.named "System.Int32" []) :=
    .optional isOptional (noContainer.not_isContainer 1)
  exact ⟨[.container .array], ⟨_, .cons peels_codes (.cons peels .nil)⟩, _,
    List.mem_singleton_self _, by simp⟩

theorem position_codes :
    (bareServer.readParameter none [] none codes {}).1.position = .query := by
  have unmarked : ∀ inner, codes.type ≠ .nullable inner := by
    intro inner
    simp [codes, TypeExpr.nullable, TypeExpr.nullableName]
  have means := Catalog.meaning_of_container peels_codes unmarked
  have outermost : (resolve bareServer [] none codes.nullable codes.type {}).1.layers.head? =
      some .array := by
    rw [resolve_congr (means.trans Catalog.meaning_array.symm)]
    exact head?_layers_array
  have isContainer : (resolve bareServer [] none codes.nullable codes.type {}).1.layers ≠ [] := by
    intro noLayer
    rw [noLayer] at outermost
    cases outermost
  have unbound : Ordered.find? (Text.lower codes.name) ([] : List (String × Bool)) = none := rfl
  rw [Server.position_readParameter]
  exact bareServer.bind_eq_query unbound rfl isContainer

theorem marks_of_codes :
    (bareServer.readParameter none [] none codes {}).1.position = .query ∧
      (bareServer.readParameter none [] none codes {}).1.isRequired = false := by
  have notAsked : (Constraints.ofAttributes codes.attributes).required = false := rfl
  have marks := (marks_of_member bareServer {}).2 none [] none codes position_codes
  refine ⟨position_codes, marks.mpr ⟨notAsked, ?_⟩⟩
  exact Or.inr (Or.inr (Or.inr (Or.inr (Or.inr occursInside_codes))))

/-- The list may be left out, although only its elements are marked. -/
theorem list_optional_by_elements :
    ¬bareServer.catalog.OccursOutside .optional codes.type ∧
      (({} : Discovery).resolve bareServer [] none false codes.type).1.optional = true ∧
      (bareServer.readParameter none [] none codes {}).1.position = .query ∧
      (bareServer.readParameter none [] none codes {}).1.isRequired = false := by
  have isOptional :
      (({} : Discovery).resolve bareServer [] none false codes.type).1.optional = true := by
    rw [optional_resolve_iff]
    exact Or.inr occursInside_codes
  refine ⟨?_, isOptional, position_codes, ?_⟩
  · rintro ⟨around, ⟨inner, unpacks⟩, outside⟩
    cases around with
    | nil =>
      cases unpacks with
      | cons peels others => cases (peels.unique peels_codes).1
    | cons first around =>
      cases unpacks with
      | cons peels others =>
        have isOutside := outside first List.mem_cons_self
        rw [(peels.unique peels_codes).1] at isOutside
        cases isOutside
  · rw [isRequired_readParameter_iff position_codes]
    exact ⟨rfl, Or.inr (Or.inr (Or.inr (Or.inr (Or.inr occursInside_codes))))⟩

end Discovery

end ClientGen

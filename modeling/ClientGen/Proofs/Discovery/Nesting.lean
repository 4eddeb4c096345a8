import ClientGen.Discovery.Basic
import ClientGen.Proofs.Catalog.Framework
import ClientGen.Proofs.Discovery.Covers

/-!
# Nested containers

A type expression is a core with shells around it: arrays, the framework's sequences and
dictionaries, and the wrappers of values that may be null or left out. Each container among the
shells becomes a layer of the shape, in the same order, and nothing of the shells gets into what the
core contributes. Whether null is allowed for the whole is decided outside the first container.

This takes a catalog in which the framework's names and the names of the wrappers mean what they
mean without the application.
-/

namespace ClientGen

open QualifiedName (lastSegment)

/-! ### Shells -/

/-- What is put around a type expression. A wrapper means its first argument, if it has others. -/
inductive Shell where
  | array
  | sequence (name : String)
  | dictionary (name : String) (key : TypeExpr)
  | nullable (others : List TypeExpr)
  | optional (name : String) (others : List TypeExpr)

namespace Shell

/-- The expression with a shell around it. -/
def around (inner : TypeExpr) : Shell → TypeExpr
  | .array => .array inner
  | .sequence name => .named name [inner]
  | .dictionary name key => .named name [key, inner]
  | .nullable others => .named TypeExpr.nullableName (inner :: others)
  | .optional name others => .named name (inner :: others)

/-- The layer that a shell becomes, if it is a container. -/
def layer? : Shell → Option Layer
  | .array => some .array
  | .sequence _ => some .array
  | .dictionary .. => some .dictionary
  | .nullable _ => none
  | .optional .. => none

def isNullable : Shell → Bool
  | .nullable _ => true
  | _ => false

def isOptional : Shell → Bool
  | .optional .. => true
  | _ => false

/-- Whether a name is that of a framework type with a number of parameters. Those with one are
sequences and those with two are dictionaries. -/
def IsFramework (arity : Nat) (name : String) : Prop :=
  ∃ entry ∈ Framework.entries, entry.arity = arity ∧
    lastSegment name = lastSegment entry.declaration.name

theorem isFramework_iff {arity : Nat} {name : String} :
    IsFramework arity name ↔ ∃ entry ∈ Framework.entries, entry.arity = arity ∧
      lastSegment name = entry.segment ++ entry.marker := by
  refine exists_congr fun entry => and_congr_right fun listed => ?_
  rw [Framework.Entry.lastSegment_name listed]

/-- Whether the name of a shell is one of its kind. -/
def IsProper : Shell → Prop
  | .sequence name => IsFramework 1 name
  | .dictionary name _ => IsFramework 2 name
  | .optional name _ => lastSegment name = optionalWrapper
  | .array => True
  | .nullable _ => True

end Shell

/-- The last segments of wrappers. -/
def wrapperSegments : List String := [optionalWrapper, "Nullable\x601"]

/-- An expression in shells, the first of which is outside. -/
def TypeExpr.inside (core : TypeExpr) (shells : List Shell) : TypeExpr :=
  shells.foldr (fun shell inner => shell.around inner) core

namespace Catalog

/-- Whether a type does not implement any contract of containers. -/
def IsNoContainer (catalog : Catalog) (name : String) : Prop :=
  catalog.implements name sequenceContracts = false ∧
    catalog.implements name dictionaryContracts = false

/-- Whether the application has no say in what the framework's containers and the wrappers are. -/
structure LeavesContainers (catalog : Catalog) : Prop where
  framework : catalog.LeavesFramework
  wrappers : ∀ declaration ∈ catalog.declarations,
    lastSegment declaration.name ∈ wrapperSegments →
      catalog.IsNoContainer declaration.name

/-- Whether an expression is neither a container nor a wrapper. -/
def IsCore (catalog : Catalog) : TypeExpr → Prop
  | .array _ => False
  | .named name args => catalog.IsNoContainer name ∧
      (args ≠ [] → lastSegment name ≠ optionalWrapper ∧ name ≠ TypeExpr.nullableName)
  | .parameter _ => True
  | .void => True

variable {catalog : Catalog} {name : String} {place : Place} {core : TypeExpr}

/-! ### What containers and wrappers are taken for -/

theorem implements_of_isFramework {arity : Nat} {contracts : List String}
    (leaves : catalog.LeavesFramework) (isFramework : Shell.IsFramework arity name)
    (areContracts : contracts ⊆ sequenceContracts ++ dictionaryContracts)
    (all : ∀ entry ∈ Framework.entries, entry.arity = arity →
      entry.segment ++ entry.marker ∈ contracts ∨
        ∃ contract ∈ contracts, contract ∈ entry.contracts) :
    catalog.implements name contracts = true := by
  rcases isFramework with ⟨entry, listed, sameArity, same⟩
  exact implements_framework leaves listed same areContracts (all entry listed sameArity)

theorem implements_sequence (leaves : catalog.LeavesFramework)
    (isSequence : Shell.IsFramework 1 name) :
    catalog.implements name sequenceContracts = true := by
  apply implements_of_isFramework leaves isSequence (List.subset_append_left _ _)
  decide

theorem implements_dictionary (leaves : catalog.LeavesFramework)
    (isDictionary : Shell.IsFramework 2 name) :
    catalog.implements name dictionaryContracts = true := by
  apply implements_of_isFramework leaves isDictionary (List.subset_append_right _ _)
  decide

theorem implements_eq_false_of_wrapper {contracts : List String}
    (isWrapper : lastSegment name ∈ wrapperSegments)
    (areContracts : contracts ⊆ sequenceContracts ++ dictionaryContracts)
    (declared : ∀ declaration ∈ catalog.declarations,
      lastSegment declaration.name ∈ wrapperSegments →
        catalog.implements declaration.name contracts = false) :
    catalog.implements name contracts = false := by
  rw [← Bool.not_eq_true]
  intro implemented
  have other : ∀ contract ∈ sequenceContracts ++ dictionaryContracts,
      contract ∉ wrapperSegments := by
    decide
  have noContract : lastSegment name ∉ contracts := fun isContract =>
    other _ (areContracts isContract) isWrapper
  rcases exists_of_implements noContract implemented with ⟨declaration, found, itself⟩
  rw [← lastSegment_of_find? found] at isWrapper
  rcases List.mem_append.mp (mem_of_find? found) with application | framework
  · rw [declared declaration application isWrapper] at itself
    cases itself
  · rcases List.mem_map.mp framework with ⟨entry, listed, rfl⟩
    rw [Framework.Entry.lastSegment_name listed] at isWrapper
    have others : ∀ entry ∈ Framework.entries,
        entry.segment ++ entry.marker ∉ wrapperSegments := by
      decide
    exact others entry listed isWrapper

/-- A wrapper is no container, by whichever name it is referred to. -/
theorem isNoContainer_of_wrapper (leaves : catalog.LeavesContainers)
    (isWrapper : lastSegment name ∈ wrapperSegments) : catalog.IsNoContainer name := by
  constructor
  · exact implements_eq_false_of_wrapper isWrapper (List.subset_append_left _ _)
      fun declaration listed named => (leaves.wrappers declaration listed named).1
  · exact implements_eq_false_of_wrapper isWrapper (List.subset_append_right _ _)
      fun declaration listed named => (leaves.wrappers declaration listed named).2

theorem isNoContainer_nullable (leaves : catalog.LeavesContainers) :
    catalog.IsNoContainer TypeExpr.nullableName := by
  apply isNoContainer_of_wrapper leaves
  rw [lastSegment_nullableName]
  exact List.mem_cons_of_mem _ (List.mem_singleton_self _)

theorem IsNoContainer.not_isContainer (noContainer : catalog.IsNoContainer name) (count : Nat) :
    ¬catalog.IsContainer name count := by
  simp [IsContainer, noContainer.1, noContainer.2]

/-! ### Meanings -/

variable {inner : TypeExpr}

theorem meaningAt_sequence (leaves : catalog.LeavesContainers)
    (isSequence : Shell.IsFramework 1 name) :
    catalog.meaningAt place (.named name [inner]) =
      (catalog.meaningAt .inside inner).within .array := by
  have implemented := implements_sequence leaves.framework isSequence
  have first : [inner][catalog.elementPosition name 1]? = some inner := by
    rw [elementPosition_one]
    rfl
  have peels : catalog.Peels (.named name [inner]) (.container .array) inner :=
    .sequence implemented (by simp) first
  refine meaningAt_of_peels peels ?_
  rintro - whole same
  cases same
  simp [(isNoContainer_nullable leaves).1] at implemented

theorem meaningAt_dictionary (leaves : catalog.LeavesContainers) {key : TypeExpr}
    (isDictionary : Shell.IsFramework 2 name) :
    catalog.meaningAt place (.named name [key, inner]) =
      (catalog.meaningAt .inside inner).within .dictionary := by
  have implemented := implements_dictionary leaves.framework isDictionary
  have peels : catalog.Peels (.named name [key, inner]) (.container .dictionary) inner :=
    .dictionary implemented rfl
  refine meaningAt_of_peels peels ?_
  rintro - whole same
  cases same

theorem meaningAt_optional (leaves : catalog.LeavesContainers) {others : List TypeExpr}
    (isOptional : lastSegment name = optionalWrapper) :
    catalog.meaningAt place (.named name (inner :: others)) =
      (catalog.meaningAt (Cover.optional.beneath place) inner).orAbsent := by
  have noContainer : catalog.IsNoContainer name := by
    apply isNoContainer_of_wrapper leaves
    rw [isOptional]
    exact List.mem_cons_self
  have peels : catalog.Peels (.named name (inner :: others)) .optional inner :=
    .optional isOptional (noContainer.not_isContainer _)
  refine meaningAt_of_peels peels ?_
  rintro - whole same
  cases same
  exact nullableName_ne_optional isOptional

theorem meaningAt_nullable (leaves : catalog.LeavesContainers) {others : List TypeExpr} :
    catalog.meaningAt place (.named TypeExpr.nullableName (inner :: others)) =
      (catalog.meaningAt (Cover.nullable.beneath place) inner).orNull (place != .inside) := by
  by_cases first : place = .top ∧ TypeExpr.nullableName = TypeExpr.nullableName ∧
      (inner :: others).length = 1
  · rw [meaningAt, if_pos first, first.1]
    rfl
  · have peels : catalog.Peels (.named TypeExpr.nullableName (inner :: others)) .nullable inner :=
      .nullable ((isNoContainer_nullable leaves).not_isContainer _)
    refine meaningAt_of_peels peels ?_
    rintro isTop whole same
    cases same
    exact first ⟨isTop, rfl, rfl⟩

/-- A core has no cover, so it means the same wherever it stands. -/
theorem exists_core (isCore : catalog.IsCore core) :
    ∃ content : Core, ∀ place, catalog.meaningAt place core = .ofCore content := by
  refine exists_core_of_isBare fun cover inner peels => ?_
  cases peels with
  | array => exact isCore
  | dictionary isDictionary _ => simp [isCore.1.2] at isDictionary
  | sequence isSequence _ _ => simp [isCore.1.1] at isSequence
  | optional isOptional _ => exact (isCore.2 (List.cons_ne_nil _ _)).1 isOptional
  | nullable _ => exact (isCore.2 (List.cons_ne_nil _ _)).2 rfl

/-- Containers become layers, and a mark for null counts where no container is around it. -/
theorem meaningAt_inside (leaves : catalog.LeavesContainers) {content : Core}
    (alone : ∀ place, catalog.meaningAt place core = .ofCore content) {shells : List Shell}
    (proper : ∀ shell ∈ shells, shell.IsProper) (place : Place) :
    catalog.meaningAt place (core.inside shells) =
      .mk (shells.filterMap Shell.layer?)
        (place != .inside && (shells.takeWhile (·.layer? = none)).any Shell.isNullable)
        (shells.any Shell.isOptional) content := by
  induction shells generalizing place with
  | nil =>
    rw [TypeExpr.inside, List.foldr_nil, alone]
    simp [Meaning.ofCore]
  | cons shell shells ih =>
    rw [List.forall_mem_cons] at proper
    have within := ih proper.2
    have whole : core.inside (shell :: shells) = shell.around (core.inside shells) := rfl
    rw [whole]
    cases shell with
    | array =>
      rw [Shell.around, meaningAt, within]
      simp [Meaning.within, Shell.layer?, Shell.isOptional]
    | sequence name =>
      rw [Shell.around, meaningAt_sequence leaves proper.1, within]
      simp [Meaning.within, Shell.layer?, Shell.isOptional]
    | dictionary name key =>
      rw [Shell.around, meaningAt_dictionary leaves proper.1, within]
      simp [Meaning.within, Shell.layer?, Shell.isOptional]
    | nullable others =>
      have noLayer : (Shell.nullable others).layer? = none := rfl
      rw [Shell.around, meaningAt_nullable leaves, within, Cover.beneath_bne]
      simp only [Meaning.orNull, List.filterMap_cons_none noLayer, List.takeWhile_cons, noLayer,
        decide_true, if_true, List.any_cons, Shell.isNullable, Shell.isOptional, Bool.false_or,
        Bool.true_or, Bool.and_true]
      cases place != .inside <;> rfl
    | optional name others =>
      have noLayer : (Shell.optional name others).layer? = none := rfl
      rw [Shell.around, meaningAt_optional leaves proper.1, within, Cover.beneath_bne]
      simp only [Meaning.orAbsent, List.filterMap_cons_none noLayer, List.takeWhile_cons, noLayer,
        Cover.layer?_optional, decide_true, if_true, List.any_cons, Shell.isNullable,
        Shell.isOptional, Bool.and_true, Bool.false_or, Bool.true_or]

end Catalog

namespace Discovery

/-- Shells around a core add layers and marks to what the core is alone, and nothing else: it is
resolved with the same classes discovered. Null is allowed if the declaration allows it, or if it is
marked so outside the first container. -/
theorem resolve_inside (server : Server) (leaves : server.catalog.LeavesContainers)
    {core : TypeExpr} (isCore : server.catalog.IsCore core) {shells : List Shell}
    (proper : ∀ shell ∈ shells, shell.IsProper) (opened : List String) (version : Option String)
    (nullable : Bool) (discovery : Discovery) :
    let whole := discovery.resolve server opened version nullable (core.inside shells)
    let alone := discovery.resolve server opened version false core
    whole.1.layers = shells.filterMap Shell.layer? ∧
      { whole.1 with layers := [], nullable := false, optional := false } = alone.1 ∧
      (whole.1.nullable = true ↔
        nullable = true ∨
          ∃ shell ∈ shells.takeWhile (·.layer? = none), shell.isNullable = true) ∧
      whole.2 = alone.2 := by
  rcases Catalog.exists_core isCore with ⟨content, means⟩
  have inShells := Catalog.meaningAt_inside leaves means proper .top
  unfold resolve Catalog.meaning
  rw [inShells, means .top, Meaning.ofCore, Meaning.orNull, Meaning.orNull, Meaning.place,
    Meaning.place]
  refine ⟨rfl, rfl, ?_, rfl⟩
  have outside : (Place.top != .inside) = true := rfl
  rw [outside, Bool.true_and, Bool.or_eq_true, List.any_eq_true]

/-- A server with orders and with a wrapper of its own for optional values. -/
def wrapperServer : Server where
  catalog := Catalog.empty
    |>.insert { name := "Shop.Order" }
    |>.insert { name := "Shop.Optional\x601", genericParameters := ["T"] }
  convention := .mvc

/-- An optional list, in which every dictionary may be null and so may every order. -/
def wrapperShells : List Shell :=
  [.optional "Shop.Optional\x601" [], .sequence "List\x601", .nullable [],
    .dictionary "Dictionary\x602" (.named "System.String" []), .nullable []]

theorem resolve_inside_shells :
    (wrapperServer.catalog.LeavesContainers ∧
      wrapperServer.catalog.IsCore (.named "Shop.Order" []) ∧
      ∀ shell ∈ wrapperShells, shell.IsProper) ∧
    let whole := ({} : Discovery).resolve wrapperServer [] none false
      (TypeExpr.inside (.named "Shop.Order" []) wrapperShells)
    let alone := ({} : Discovery).resolve wrapperServer [] none false (.named "Shop.Order" [])
    whole.1.layers = [.array, .dictionary] ∧
      { whole.1 with layers := [], nullable := false, optional := false } = alone.1 ∧
      whole.1.nullable = false ∧ whole.2 = alone.2 := by
  have leaves : wrapperServer.catalog.LeavesContainers := by
    constructor
    · rw [Catalog.leavesFramework_iff]
      decide
    · unfold Catalog.IsNoContainer
      decide
  have isCore : wrapperServer.catalog.IsCore (.named "Shop.Order" []) := by
    refine ⟨?_, fun args => absurd rfl args⟩
    unfold Catalog.IsNoContainer
    decide
  have proper : ∀ shell ∈ wrapperShells, shell.IsProper := by
    have sequence : ∃ entry ∈ Framework.entries, entry.arity = 1 ∧
        lastSegment "List\x601" = entry.segment ++ entry.marker := by
      decide
    have dictionary : ∃ entry ∈ Framework.entries, entry.arity = 2 ∧
        lastSegment "Dictionary\x602" = entry.segment ++ entry.marker := by
      decide
    simp only [wrapperShells, List.forall_mem_cons, Shell.IsProper, Shell.isFramework_iff]
    refine ⟨?_, sequence, trivial, dictionary, trivial, List.forall_mem_nil _⟩
    decide
  have inside := resolve_inside wrapperServer leaves isCore proper [] none false {}
  refine ⟨⟨leaves, isCore, proper⟩, inside.1, inside.2.1, ?_, inside.2.2.2⟩
  rw [← Bool.not_eq_true, inside.2.2.1]
  decide

end Discovery

end ClientGen

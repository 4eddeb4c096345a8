import ClientGen.Proofs.Catalog.Namesakes
import ClientGen.Proofs.Discovery.Containers
import ClientGen.Proofs.Discovery.Entering

/-!
# Types that nobody describes

A type whose name is no full name is described all the same if it has exactly one namesake: then it
is taken for that one, whatever its namespace. If it has none or several, nothing is known about
its values, and no class is registered for it or for its arguments.
-/

namespace ClientGen

open QualifiedName (lastSegment)

namespace Catalog

variable {catalog : Catalog} {name : String} {args : List TypeExpr} {arguments : List Meaning}
  {declaration : Declaration}

theorem implements_of_find?_eq_none {contracts : List String} (unknown : catalog.find? name = none)
    (noContract : lastSegment name ∉ contracts) : catalog.implements name contracts = false := by
  by_contra implemented
  rcases exists_of_implements noContract (by simpa using implemented) with ⟨declaration, found, -⟩
  rw [unknown] at found
  cases found

theorem not_isContainer_of_find?_eq_none {count : Nat} (unknown : catalog.find? name = none)
    (noContract : lastSegment name ∉ sequenceContracts ++ dictionaryContracts) :
    ¬catalog.IsContainer name count := by
  rw [List.mem_append, not_or] at noContract
  rintro (isSequence | ⟨-, isDictionary⟩)
  · simp [implements_of_find?_eq_none unknown noContract.1] at isSequence
  · simp [implements_of_find?_eq_none unknown noContract.2] at isDictionary

theorem coreOf_of_find?_eq_none (notPrimitive : primitiveKind? name = none)
    (unknown : catalog.find? name = none) : catalog.coreOf name arguments = .undescribed name := by
  rw [coreOf, notPrimitive, unknown]

theorem coreOf_of_find? (notPrimitive : primitiveKind? name = none)
    (found : catalog.find? name = some declaration) : catalog.coreOf name arguments =
      if declaration.isEnum then .enum declaration else .object declaration arguments := by
  rw [coreOf, notPrimitive, found]

end Catalog

namespace Discovery

variable {server : Server} {opened : List String} {version : Option String} {nullable : Bool}
  {name : String} {args : List TypeExpr} {discovery : Discovery}

theorem resolve_of_isBare (bare : server.catalog.IsBare (.named name args)) :
    discovery.resolve server opened version nullable (.named name args) =
      (Meaning.mk [] nullable false
        (server.catalog.coreOf name (server.catalog.meanings args))).place
        (enter server version (discovery.remaining server) opened) discovery := by
  rw [resolve, Catalog.meaning, Catalog.meaningAt_of_isBare bare, Meaning.ofCore, Meaning.orNull,
    Bool.or_false]

/-- A container has a layer. -/
theorem layers_of_isContainer (given : args ≠ [])
    (isContainer : server.catalog.IsContainer name args.length)
    (notNullable : name ≠ TypeExpr.nullableName) :
    (discovery.resolve server opened version nullable (.named name args)).1.layers ≠ [] := by
  rcases Catalog.exists_peels_of_isContainer isContainer given with ⟨layer, inner, peels⟩
  have unmarked : ∀ whole, TypeExpr.named name args ≠ .nullable whole := fun whole same =>
    notNullable (TypeExpr.named.inj same).1
  rw [resolve_of_meaning (Catalog.meaning_of_container peels unmarked)]
  exact List.cons_ne_nil _ _

/-- What is described and bare has a class. -/
theorem class_of_isBare {declaration : Declaration}
    (bare : server.catalog.IsBare (.named name args)) (notPrimitive : primitiveKind? name = none)
    (found : server.catalog.find? name = some declaration) :
    let shape := (discovery.resolve server opened version nullable (.named name args)).1
    shape.layers = [] ∧ shape.reference.isSome ∧
      shape.kind = if declaration.isEnum then .enum else .object := by
  rw [resolve_of_isBare bare, Catalog.coreOf_of_find? notPrimitive found]
  by_cases isEnum : declaration.isEnum
  · simp [isEnum, Meaning.place, Meaning.placeCore]
  · simp [isEnum, Meaning.place, Meaning.placeCore]

/-- Nothing is known about a type whose name is no full name, and nothing is registered for it,
unless exactly one full name has the same last segment: then it is taken for what has that name. -/
theorem undescribed_unless_namesake (server : Server) {name : String} {args : List TypeExpr}
    (missing : name ∉ server.catalog.allNames) (notPrimitive : primitiveKind? name = none)
    (noWrapper : args ≠ [] → lastSegment name ∉ sequenceContracts ++ dictionaryContracts ∧
      lastSegment name ≠ optionalWrapper ∧ name ≠ TypeExpr.nullableName)
    (opened : List String) (version : Option String) (nullable : Bool) (discovery : Discovery) :
    let whole := discovery.resolve server opened version nullable (.named name args)
    ((¬∃! fullName, server.catalog.Namesake name fullName) →
      whole = ({ kind := .any, nullable }, discovery.note (.undescribed name))) ∧
    ∀ fullName, server.catalog.Namesake name fullName →
      (∀ other, server.catalog.Namesake name other → other = fullName) →
      ∃ declaration, server.catalog.findExact? fullName = some declaration ∧
        ((args ≠ [] ∧ server.catalog.IsContainer name args.length) → whole.1.layers ≠ []) ∧
        (¬(args ≠ [] ∧ server.catalog.IsContainer name args.length) →
          whole.1.layers = [] ∧ whole.1.reference.isSome ∧
            whole.1.kind = if declaration.isEnum then .enum else .object) := by
  have isBare : server.catalog.IsBare (.named name args) ↔
      ¬(args ≠ [] ∧ server.catalog.IsContainer name args.length) := by
    rw [Catalog.isBare_named_iff fun given => (noWrapper given).2, not_and]
  constructor
  · intro ambiguous
    have unknown := Catalog.find?_eq_none_iff.mpr ⟨missing, ambiguous⟩
    have bare : server.catalog.IsBare (.named name args) := by
      rw [isBare]
      rintro ⟨given, isContainer⟩
      exact Catalog.not_isContainer_of_find?_eq_none unknown (noWrapper given).1 isContainer
    rw [resolve_of_isBare bare, Catalog.coreOf_of_find?_eq_none notPrimitive unknown, Meaning.place,
      Meaning.placeCore]
  · intro fullName namesake only
    rcases Option.isSome_iff_exists.mp (Catalog.isSome_findExact?_iff.mpr namesake.1) with
      ⟨declaration, exact⟩
    have found := (Catalog.find?_of_only missing namesake only).trans exact
    refine ⟨declaration, exact, ?_, ?_⟩
    · rintro ⟨given, isContainer⟩
      exact layers_of_isContainer given isContainer (noWrapper given).2.2
    · intro noContainer
      exact class_of_isBare (isBare.mpr noContainer) notPrimitive found

/-- The colours of a shop. -/
def color : Declaration where
  name := "Shop.Color"
  kind := .enum

/-- A server with one type for colours and two for sizes. -/
def catalogueServer : Server where
  catalog := Catalog.empty |>.insert color |>.insert { name := "Shop.Menu.Size" }
    |>.insert { name := "Shop.Shoe.Size" }
  convention := .mvc

theorem leavesFramework_catalogue : catalogueServer.catalog.LeavesFramework := by
  rw [Catalog.leavesFramework_iff]
  decide

theorem size_undescribed :
    ({} : Discovery).resolve catalogueServer [] none false (.named "Vendor.Size" []) =
      ({ kind := .any }, ({} : Discovery).note (.undescribed "Vendor.Size")) := by
  have ambiguous : ¬∃! fullName, catalogueServer.catalog.Namesake "Vendor.Size" fullName := by
    rintro ⟨fullName, -, only⟩
    have menu := only "Shop.Menu.Size" ⟨by decide, by decide +kernel⟩
    have shoe := only "Shop.Shoe.Size" ⟨by decide, by decide +kernel⟩
    rw [← shoe] at menu
    exact absurd menu (by decide)
  exact (undescribed_unless_namesake catalogueServer (by decide) (by decide +kernel)
    (by simp) [] none false {}).1 ambiguous

theorem only_color {other : String}
    (namesake : catalogueServer.catalog.Namesake "Vendor.Color" other) : other = "Shop.Color" := by
  have declared : color ∈ catalogueServer.catalog.declarations := List.mem_cons_self
  have same : lastSegment color.name = lastSegment "Vendor.Color" := by
    decide
  have others : ∀ name ∈ catalogueServer.catalog.declarations.map (·.name),
      lastSegment name = lastSegment "Vendor.Color" → name = "Shop.Color" := by
    decide
  apply others other _ namesake.2
  rcases List.mem_map.mp namesake.1 with ⟨declaration, known, rfl⟩
  rcases List.mem_append.mp known with isApplication | isFramework
  · exact List.mem_map_of_mem isApplication
  · exact absurd (same.trans namesake.2.symm)
      (leavesFramework_catalogue color declared declaration isFramework)

/-- A colour of somebody else is taken for one of the shop. -/
theorem color_of_shop :
    "Vendor.Color" ∉ catalogueServer.catalog.allNames ∧ primitiveKind? "Vendor.Color" = none ∧
      let whole := ({} : Discovery).resolve catalogueServer [] none false (.named "Vendor.Color" [])
      whole.1.kind = .enum ∧ whole.1.reference.isSome ∧ whole.2.types.size = 1 := by
  have missing : "Vendor.Color" ∉ catalogueServer.catalog.allNames := by
    decide
  have notPrimitive : primitiveKind? "Vendor.Color" = none := by
    decide
  have namesake : catalogueServer.catalog.Namesake "Vendor.Color" "Shop.Color" :=
    ⟨by decide, by decide +kernel⟩
  have found : catalogueServer.catalog.find? "Vendor.Color" = some color :=
    Catalog.find?_of_only missing namesake fun other => only_color
  have bare : catalogueServer.catalog.IsBare (.named "Vendor.Color" []) := by
    rw [Catalog.isBare_named_iff (by simp)]
    simp
  have isEnum : color.isEnum = true := rfl
  have fresh : ({} : Discovery).types.indexOf? (QualifiedName.className color.name) = none := rfl
  refine ⟨missing, notPrimitive, ?_⟩
  rw [resolve_of_isBare bare, Catalog.coreOf_of_find? notPrimitive found, if_pos isEnum,
    Meaning.place, Meaning.placeCore, enter_of_closed fresh (Or.inl isEnum)]
  refine ⟨rfl, rfl, ?_⟩
  rw [ClassTable.size, (register_newEntry catalogueServer none fresh).2.1]
  rfl

end Discovery

end ClientGen

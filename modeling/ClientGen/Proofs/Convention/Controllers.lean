import ClientGen.Convention.Detect
import ClientGen.Proofs.Catalog.Inheritance

/-!
# The bases of controllers

Conventions are told by the bases along the hierarchy of a declaration, controllers by the names of
bases as they are written. The first walk ends where a declaration comes back, the second one where
a spelling does, and one declaration may be written in several ways. Both walks still meet the same
bases, since either meets whatever can be reached: `Convention.mem_basesWritten_iff` says what that
is for the first walk, and `Catalog.mem_basesFrom_iff` for the second one.
-/

namespace ClientGen

open Relation (ReflTransGen)

namespace Catalog

variable {catalog : Catalog} {declaration : Declaration} {bound : Nat} {seen : List String}
  {start : Option String} {first written : String}

/-- The base of the declaration that a name stands for, as it is written there. -/
def baseBehind? (catalog : Catalog) (name : String) : Option String :=
  (catalog.find? name).bind (·.base)

def allBases (catalog : Catalog) : List String :=
  (catalog.declarations ++ frameworkTypes).filterMap (·.base)

theorem length_allBases_le (catalog : Catalog) : catalog.allBases.length ≤ catalog.size := by
  have fewer := List.length_filterMap_le (·.base) (catalog.declarations ++ frameworkTypes)
  simpa [allBases, declarations, size] using fewer

theorem mem_allBases_of_baseBehind? {name : String}
    (follows : catalog.baseBehind? name = some written) : written ∈ catalog.allBases := by
  rcases Option.bind_eq_some_iff.mp follows with ⟨declaration, found, base⟩
  exact List.mem_filterMap.mpr ⟨declaration, mem_of_find? found, base⟩

theorem walks_baseNamesFrom {known : List String} (spans : catalog.allBases ⊆ known)
    (begins : ∀ first, start = some first → first ∈ known) (room : unseen known seen < bound) :
    Walks catalog.baseBehind? id seen start (catalog.baseNamesFrom bound seen start) := by
  induction bound generalizing seen start with
  | zero => omega
  | succ bound ih =>
    cases start with
    | none => exact .nowhere
    | some base =>
      rw [baseNamesFrom]
      by_cases old : base ∈ seen
      · simp only [old, if_true]
        exact .back old
      · simp only [old, if_false]
        have fewer := unseen_cons_lt (begins base rfl) old
        refine .visit old (ih ?_ (Nat.lt_of_lt_of_le fewer (Nat.le_of_lt_succ room)))
        intro following follows
        exact spans (mem_allBases_of_baseBehind? follows)

/-- The bases of a declaration as they are written, until one repeats or is not known. -/
def basesFrom (catalog : Catalog) (declaration : Declaration) : List String :=
  catalog.baseNamesFrom (catalog.size + 2) [] declaration.base

theorem walks_basesFrom (catalog : Catalog) (declaration : Declaration) :
    Walks catalog.baseBehind? id [] declaration.base (catalog.basesFrom declaration) := by
  have fewer := catalog.length_allBases_le
  have room := unseen_le_length (declaration.base.toList ++ catalog.allBases) []
  have first : declaration.base.toList.length ≤ 1 := by cases declaration.base <;> simp
  rw [List.length_append] at room
  apply walks_baseNamesFrom (List.subset_append_right declaration.base.toList _)
  · intro base same
    simp [same]
  · omega

theorem mem_basesFrom_iff : written ∈ catalog.basesFrom declaration ↔
    ∃ first, declaration.base = some first ∧
      ReflTransGen (Onward catalog.baseBehind?) first written := by
  have walk := catalog.walks_basesFrom declaration
  constructor
  · intro among
    exact walk.exists_path_of_mem among
  · rintro ⟨first, begins, path⟩
    rw [begins] at walk
    rw [walk.mem_iff_path]
    · exact path
    · intro node other _ _ same
      exact same

/-- Following declarations meets the same bases as following what is written. -/
theorem exists_path_iff : (∃ derived, ReflTransGen (Onward catalog.base?) declaration derived ∧
      derived.base = some written) ↔
    ∃ first, declaration.base = some first ∧
      ReflTransGen (Onward catalog.baseBehind?) first written := by
  constructor
  · rintro ⟨derived, path, base⟩
    induction path generalizing written with
    | refl => exact ⟨written, base, .refl⟩
    | tail _ follows ih =>
      rcases Option.bind_eq_some_iff.mp follows with ⟨before, writtenBefore, found⟩
      rcases ih writtenBefore with ⟨first, begins, path⟩
      refine ⟨first, begins, path.tail ?_⟩
      rw [Onward, baseBehind?, found]
      exact base
  · rintro ⟨first, begins, path⟩
    induction path with
    | refl => exact ⟨declaration, .refl, begins⟩
    | tail _ follows ih =>
      rcases Option.bind_eq_some_iff.mp follows with ⟨base, found, writtenThere⟩
      rcases ih with ⟨derived, path, writtenBefore⟩
      refine ⟨base, path.tail ?_, writtenThere⟩
      rw [Onward, base?, writtenBefore]
      exact found

end Catalog

namespace Convention

variable {catalog : Catalog} {declaration : Declaration} {written : String}

theorem mem_basesWritten_iff (declared : catalog.Declares declaration) :
    written ∈ basesWritten catalog declaration ↔
      ∃ derived, ReflTransGen (Onward catalog.base?) declaration derived ∧
        derived.base = some written := by
  simp only [basesWritten, List.mem_filterMap, Catalog.mem_hierarchy_iff declared]

theorem mem_basesWritten_iff_basesFrom (declared : catalog.Declares declaration) :
    written ∈ basesWritten catalog declaration ↔ written ∈ catalog.basesFrom declaration := by
  rw [mem_basesWritten_iff declared, Catalog.exists_path_iff, Catalog.mem_basesFrom_iff]

theorem mem_shortNames_iff (declared : catalog.Declares declaration) (name : String) :
    name ∈ (basesWritten catalog declaration).map QualifiedName.shortName ↔
      name ∈ catalog.baseNames declaration := by
  have names : catalog.baseNames declaration =
      (catalog.basesFrom declaration).map QualifiedName.shortName := rfl
  simp only [names, List.mem_map, mem_basesWritten_iff_basesFrom declared]

theorem isControllerBase_iff {base : String} : isControllerBase base = true ↔
    QualifiedName.shortName base ∈ Convention.mvc.controllerBases ∨
      QualifiedName.shortName base ∈ Convention.webApi.controllerBases := by
  simp only [isControllerBase, controllerBases, List.contains_iff_mem, List.mem_cons,
    List.not_mem_nil, or_false]
  generalize QualifiedName.shortName base = name
  constructor
  · rintro (controller | controllerBase | apiController)
    · exact .inl (.inl controller)
    · exact .inl (.inr controllerBase)
    · exact .inr (.inl apiController)
  · rintro ((controller | controllerBase) | (apiController | controller))
    · exact .inl controller
    · exact .inr (.inl controllerBase)
    · exact .inr (.inr apiController)
    · exact .inl controller

theorem isController_iff (isClass : declaration.kind = .classType) (convention : Convention) :
    convention.isController catalog declaration = true ↔
      ∃ name ∈ catalog.baseNames declaration, name ∈ convention.controllerBases := by
  simp [isController, isClass]

/-- What tells conventions and what tells controllers agree on a class. Both walks along its bases
end, they meet the same short names of bases, and the class has the base of a controller exactly if
it is a controller in one of the conventions. -/
theorem isControllerBase_iff_isController (catalog : Catalog) {declaration : Declaration}
    (declared : catalog.Declares declaration) (isClass : declaration.kind = .classType) :
    (∀ visited, Walks catalog.base? (·.name) [] (some declaration) visited ↔
      visited = catalog.hierarchy declaration) ∧
    (∃ bases, catalog.baseNames declaration = bases.map QualifiedName.shortName ∧
      ∀ visited, Walks catalog.baseBehind? id [] declaration.base visited ↔ visited = bases) ∧
    (∀ name, name ∈ (basesWritten catalog declaration).map QualifiedName.shortName ↔
      name ∈ catalog.baseNames declaration) ∧
    ((basesWritten catalog declaration).any isControllerBase = true ↔
      Convention.mvc.isController catalog declaration = true ∨
        Convention.webApi.isController catalog declaration = true) := by
  refine ⟨?_, ⟨catalog.basesFrom declaration, rfl, ?_⟩, mem_shortNames_iff declared, ?_⟩
  · intro visited
    exact (catalog.walks_hierarchy declaration).iff_eq
  · intro visited
    exact (catalog.walks_basesFrom declaration).iff_eq
  · simp only [isController_iff isClass, ← mem_shortNames_iff declared, List.any_eq_true,
      isControllerBase_iff, ← exists_or, ← and_or_left]
    simp only [List.mem_map, exists_exists_and_eq_and]

/-- A controller that is derived from a class of its own, which in turn is derived from it. -/
def usersDeclaration : Declaration where
  name := "Shop.UsersController"
  base := some "Shop.Controller"

def ownController : Declaration where
  name := "Shop.Controller"
  base := some "Shop.UsersController"

def usersCatalog : Catalog :=
  Catalog.empty |>.insert usersDeclaration |>.insert ownController

theorem users_isController :
    usersCatalog.Declares usersDeclaration ∧ usersDeclaration.kind = .classType ∧
      "Controller" ∈ usersCatalog.baseNames usersDeclaration ∧
      (Convention.mvc.isController usersCatalog usersDeclaration = true ∨
        Convention.webApi.isController usersCatalog usersDeclaration = true) := by
  have declared : usersCatalog.Declares usersDeclaration :=
    Catalog.declares_of_mem List.mem_cons_self
  have agree := isControllerBase_iff_isController usersCatalog declared rfl
  have bases : basesWritten usersCatalog usersDeclaration =
      ["Shop.Controller", "Shop.UsersController"] := by
    rfl
  rw [bases] at agree
  refine ⟨declared, rfl, (agree.2.2.1 "Controller").mp ?_, agree.2.2.2.mp ?_⟩
  · decide
  · decide

end Convention

end ClientGen

import ClientGen.Proofs.Catalog.Walks

/-!
# Inheritance

The hierarchy of a declaration is the walk along its bases, so it holds every ancestor once, also
where declarations are bases of each other. What a class has of properties and methods is decided
key by key: the most derived declaration counts, and within one declaration the last one, while the
order is that in which the keys first occur from the root base down.

Both kinds of members are inherited in the same way, and `Catalog.inherits_inherited` is proved for
any kind.
-/

namespace ClientGen.Catalog

open Relation (ReflTransGen)

variable {catalog : Catalog} {declaration base : Declaration}

/-! ### Ancestors -/

/-- Whether a declaration is what the catalog finds under its full name. -/
def Declares (catalog : Catalog) (declaration : Declaration) : Prop :=
  catalog.find? declaration.name = some declaration

/-- The catalog declares whatever was inserted and not replaced. -/
theorem declares_of_mem (among : declaration ∈ catalog.declarations) :
    catalog.Declares declaration := by
  rcases List.mem_map.mp among with ⟨entry, stored, rfl⟩
  have found : Ordered.find? entry.2.name catalog.entries = some entry.2 := by
    apply Ordered.find?_of_mem catalog.distinct
    rw [← catalog.keyed entry stored]
    exact stored
  have exact : catalog.findExact? entry.2.name = some entry.2 := by rw [findExact?, found]
  rw [Declares, find?, exact]

theorem declares_of_base? (follows : catalog.base? declaration = some base) :
    catalog.Declares base := by
  rcases exists_find?_of_base? follows with ⟨written, found⟩
  exact find?_name found

theorem declares_of_path (declared : catalog.Declares declaration)
    (path : ReflTransGen (Onward catalog.base?) declaration base) : catalog.Declares base := by
  cases path with
  | refl => exact declared
  | tail _ found => exact declares_of_base? found

/-- The hierarchy holds the declaration and all of its ancestors. -/
theorem mem_hierarchy_iff (declared : catalog.Declares declaration) :
    base ∈ catalog.hierarchy declaration ↔
      ReflTransGen (Onward catalog.base?) declaration base := by
  apply (catalog.walks_hierarchy declaration).mem_iff_path
  intro node other path pathToo same
  have found := declares_of_path declared path
  have foundToo := declares_of_path declared pathToo
  rw [Declares, ← same] at foundToo
  exact Option.some.inj (found.symm.trans foundToo)

/-! ### Members -/

variable {α κ : Type} [DecidableEq κ] {members : Declaration → List α} {key : α → κ}
  {hierarchy : List Declaration} {entry : Declaration × α}

/-- Whether a declaration of a hierarchy has a member that is declared again neither further down
nor later in the declaration itself. -/
def IsMostDerived (members : Declaration → List α) (key : α → κ) (hierarchy : List Declaration)
    (entry : Declaration × α) : Prop :=
  ∃ derived bases earlier later,
    hierarchy = derived ++ entry.1 :: bases ∧ members entry.1 = earlier ++ entry.2 :: later ∧
      ∀ other ∈ derived.flatMap members ++ later, key other ≠ key entry.2

/-- Whether entries are the members that count in a hierarchy, in the order in which their keys
first occur from the root base down. -/
structure Inherits (members : Declaration → List α) (key : α → κ) (hierarchy : List Declaration)
    (entries : List (Declaration × α)) : Prop where
  keys : (entries.map fun entry => key entry.2) =
    ((hierarchy.reverse.flatMap members).map key).eraseDups
  counts : ∀ entry, entry ∈ entries ↔ IsMostDerived members key hierarchy entry

/-- The members that a declaration has itself, under their keys. -/
def ownMembers (members : Declaration → List α) (key : α → κ) (declaring : Declaration) :
    List (κ × Declaration × α) :=
  (members declaring).map fun member => (key member, declaring, member)

/-- The members of a hierarchy, root base first, of which the last one counts for every key. -/
def inherited (members : Declaration → List α) (key : α → κ) (hierarchy : List Declaration) :
    List (Declaration × α) :=
  (Ordered.ofList (hierarchy.reverse.flatMap (ownMembers members key))).map (·.2)

omit [DecidableEq κ] in
theorem find?_reverse_eq_some_iff {among : List α} {wanted : α → Bool} {member : α} :
    among.reverse.find? wanted = some member ↔ wanted member ∧
      ∃ earlier later, among = earlier ++ member :: later ∧ ∀ other ∈ later, !wanted other := by
  rw [List.find?_eq_some_iff_append]
  apply and_congr_right
  intro _
  constructor
  · rintro ⟨later, earlier, split, apart⟩
    refine ⟨earlier.reverse, later.reverse, ?_, ?_⟩
    · simpa using congrArg List.reverse split
    · simpa using apart
  · rintro ⟨earlier, later, rfl, apart⟩
    exact ⟨later.reverse, earlier.reverse, by simp, by simpa using apart⟩

theorem find?_ownMembers_iff {declaring : Declaration} :
    (ownMembers members key declaring).reverse.find? (·.1 == key entry.2) =
        some (key entry.2, entry) ↔
      declaring = entry.1 ∧ ∃ earlier later, members declaring = earlier ++ entry.2 :: later ∧
        ∀ other ∈ later, key other ≠ key entry.2 := by
  rw [ownMembers, ← List.map_reverse, List.find?_map, Option.map_eq_some_iff]
  constructor
  · rintro ⟨member, found, same⟩
    have own : (declaring, member) = entry := (Prod.mk.inj same).2
    subst own
    refine ⟨rfl, ?_⟩
    simpa using (find?_reverse_eq_some_iff.mp found).2
  · rintro ⟨rfl, split⟩
    refine ⟨entry.2, find?_reverse_eq_some_iff.mpr ⟨by simp, ?_⟩, rfl⟩
    simpa using split

theorem find?_ownMembers_eq_none_iff {declaring : Declaration} {wanted : κ} :
    (ownMembers members key declaring).reverse.find? (·.1 == wanted) = none ↔
      ∀ member ∈ members declaring, key member ≠ wanted := by
  simp [ownMembers]

theorem mem_inherited_iff :
    entry ∈ inherited members key hierarchy ↔ IsMostDerived members key hierarchy entry := by
  have keyed : entry ∈ inherited members key hierarchy ↔ (key entry.2, entry) ∈
      Ordered.ofList (hierarchy.reverse.flatMap (ownMembers members key)) := by
    rw [inherited, List.mem_map]
    constructor
    · rintro ⟨pair, stored, rfl⟩
      rcases List.mem_flatMap.mp (Ordered.mem_of_mem_ofList stored) with ⟨declaring, -, own⟩
      rcases List.mem_map.mp own with ⟨member, -, rfl⟩
      exact stored
    · intro stored
      exact ⟨_, stored, rfl⟩
  have mostDerived : (hierarchy.reverse.flatMap (ownMembers members key)).reverse =
      hierarchy.flatMap fun declaring => (ownMembers members key declaring).reverse := by
    rw [List.reverse_flatMap, List.reverse_reverse]
    rfl
  rw [keyed, Ordered.mem_ofList_iff, mostDerived, List.find?_flatMap, List.findSome?_eq_some_iff]
  simp only [find?_ownMembers_iff, find?_ownMembers_eq_none_iff]
  constructor
  · rintro ⟨derived, _, bases, split, ⟨rfl, earlier, later, own, last⟩, below⟩
    refine ⟨derived, bases, earlier, later, split, own, ?_⟩
    intro other among
    rcases List.mem_append.mp among with further | after
    · rcases List.mem_flatMap.mp further with ⟨declaring, isDerived, declared⟩
      exact below declaring isDerived other declared
    · exact last other after
  · rintro ⟨derived, bases, earlier, later, split, own, apart⟩
    refine ⟨derived, entry.1, bases, split, ⟨rfl, earlier, later, own, ?_⟩, ?_⟩
    · intro other after
      exact apart other (List.mem_append_right _ after)
    · intro declaring isDerived member declared
      exact apart member (List.mem_append_left _ (List.mem_flatMap.mpr ⟨_, isDerived, declared⟩))

theorem inherits_inherited (members : Declaration → List α) (key : α → κ)
    (hierarchy : List Declaration) :
    Inherits members key hierarchy (inherited members key hierarchy) where
  counts _ := mem_inherited_iff
  keys := by
    have keyed : ∀ pair ∈ Ordered.ofList (hierarchy.reverse.flatMap (ownMembers members key)),
        key pair.2.2 = pair.1 := by
      intro pair stored
      rcases List.mem_flatMap.mp (Ordered.mem_of_mem_ofList stored) with ⟨declaring, -, own⟩
      rcases List.mem_map.mp own with ⟨member, -, rfl⟩
      rfl
    have written : (hierarchy.reverse.flatMap (ownMembers members key)).map (·.1) =
        (hierarchy.reverse.flatMap members).map key := by
      simp [ownMembers, List.map_flatMap, Function.comp_def]
    rw [inherited, List.map_map, ← written, ← Ordered.keys_ofList]
    exact List.map_congr_left keyed

/-! ### What a class has -/

/-- A hierarchy begins with the declaration itself and goes on from each declaration to its base,
up to where no base is known or the base stands in the hierarchy already. No declaration occurs
twice, and no ancestor is left out. Of the properties in the hierarchy one counts for every name,
and of the methods one for every name with the same types of parameters. -/
theorem hierarchy_inherits (catalog : Catalog) {declaration : Declaration}
    (declared : catalog.Declares declaration) :
    let hierarchy := catalog.hierarchy declaration
    ((hierarchy.map (·.name)).Nodup ∧ hierarchy.head? = some declaration ∧
      hierarchy.IsChain (fun derived base => derived.base.bind catalog.find? = some base) ∧
      ∀ derived ∈ hierarchy, ∀ base, derived.base.bind catalog.find? = some base →
        base ∈ hierarchy) ∧
    Inherits (·.properties) (·.name) hierarchy (catalog.allProperties declaration) ∧
    Inherits (·.methods) (fun method => (method.name, method.parameters.map (·.type))) hierarchy
      (catalog.allMethods declaration) := by
  have walk := catalog.walks_hierarchy declaration
  refine ⟨⟨walk.nodup_keys, rfl, walk.isChain, ?_⟩, ?_, inherits_inherited _ _ _⟩
  · intro derived among base follows
    rw [mem_hierarchy_iff declared] at among ⊢
    exact among.tail follows
  · exact inherits_inherited _ _ _

def entryTitle : Property where
  name := "Title"
  type := .named "System.String" []

def entryDeclaration : Declaration where
  name := "Shop.Entry"
  base := some "Shop.Article"
  properties := [{ name := "Id", type := .named "System.Int32" [] }, entryTitle]

def articleTitle : Property where
  name := "Title"
  type := .named "Shop.Label" []

def articleDeclaration : Declaration where
  name := "Shop.Article"
  base := some "Shop.Entry"
  properties := [articleTitle, { name := "Price", type := .named "System.Decimal" [] }]

/-- A catalog with two declarations that are bases of each other. -/
def articleCatalog : Catalog :=
  Catalog.empty |>.insert entryDeclaration |>.insert articleDeclaration

theorem hierarchy_article :
    articleCatalog.hierarchy articleDeclaration = [articleDeclaration, entryDeclaration] := by
  rfl

theorem hierarchy_inherits_of_article :
    articleCatalog.Declares articleDeclaration ∧
      (articleCatalog.allProperties articleDeclaration).map (·.2.name) = ["Id", "Title", "Price"] ∧
      (articleDeclaration, articleTitle) ∈ articleCatalog.allProperties articleDeclaration ∧
      (entryDeclaration, entryTitle) ∉ articleCatalog.allProperties articleDeclaration := by
  have declared : articleCatalog.Declares articleDeclaration :=
    declares_of_mem (List.mem_cons_of_mem _ List.mem_cons_self)
  rcases hierarchy_inherits articleCatalog declared with ⟨-, properties, -⟩
  rw [hierarchy_article] at properties
  refine ⟨declared, properties.keys, ?_, ?_⟩
  · rw [properties.counts]
    exact ⟨[], [entryDeclaration], [], _, rfl, rfl, by simp [articleTitle]⟩
  · rw [properties.counts]
    rintro ⟨derived, bases, earlier, later, split, -, apart⟩
    cases derived with
    | nil => exact absurd (congrArg Declaration.name (List.cons.inj split).1) (by decide)
    | cons first derived =>
      cases (List.cons.inj split).1
      exact apart articleTitle (by simp [articleDeclaration]) rfl

end ClientGen.Catalog

import ClientGen.Proofs.Catalog.Lookup
import ClientGen.Proofs.Collections.Reach
import ClientGen.Proofs.Collections.Walk

/-!
# Walks through a catalog

The walks along bases and along all parents are bounded by what the catalog has. No walk comes to
its bound, however the declarations refer to each other: it ends because it comes back to what it
has seen, or to a name that nobody declares.
-/

namespace ClientGen.Catalog

variable (catalog : Catalog) {bound : Nat} {declaration : Declaration} {name : String}

/-- The full names of all declarations. -/
def allNames : List String :=
  (catalog.declarations ++ frameworkTypes).map (·.name)

theorem length_allNames : catalog.allNames.length = catalog.size := by
  simp [allNames, declarations, size]

/-! ### Bases -/

/-- The declaration that the base of another one stands for. -/
def base? (declaration : Declaration) : Option Declaration :=
  declaration.base.bind catalog.find?

theorem exists_find?_of_base? {catalog : Catalog} {base : Declaration}
    (follows : catalog.base? declaration = some base) :
    ∃ written, catalog.find? written = some base := by
  rcases Option.bind_eq_some_iff.mp follows with ⟨written, -, found⟩
  exact ⟨written, found⟩

theorem walks_basesOf (declaration : Declaration) {seen : List String}
    (room : unseen catalog.allNames seen < bound) :
    Walks catalog.base? (·.name) seen (catalog.base? declaration)
      (catalog.basesOf bound seen declaration) := by
  induction bound generalizing seen declaration with
  | zero => omega
  | succ bound ih =>
    rw [basesOf, ← base?]
    cases follows : catalog.base? declaration with
    | none => exact .nowhere
    | some base =>
      by_cases old : base.name ∈ seen
      · simp only [old, if_true]
        exact .back old
      · simp only [old, if_false]
        rcases exists_find?_of_base? follows with ⟨written, found⟩
        have known : base.name ∈ catalog.allNames := List.mem_map_of_mem (mem_of_find? found)
        have fewer := unseen_cons_lt known old
        exact .visit old (ih base (by omega))

theorem unseen_allNames_le (declaration : Declaration) :
    unseen catalog.allNames [declaration.name] ≤ catalog.size := by
  rw [← length_allNames]
  exact unseen_le_length _ _

/-- The walk along the bases of a declaration does not come to its bound. -/
theorem basesOf_of_le (declaration : Declaration) (enough : catalog.size + 1 ≤ bound) :
    catalog.basesOf bound [declaration.name] declaration =
      catalog.basesOf (catalog.size + 1) [declaration.name] declaration := by
  have room := catalog.unseen_allNames_le declaration
  have walk := catalog.walks_basesOf declaration (Nat.lt_of_le_of_lt room enough)
  exact walk.unique (catalog.walks_basesOf declaration (Nat.lt_succ_of_le room))

/-- The hierarchy is the walk that begins with the declaration. -/
theorem walks_hierarchy (declaration : Declaration) :
    Walks catalog.base? (·.name) [] (some declaration) (catalog.hierarchy declaration) := by
  have room := catalog.unseen_allNames_le declaration
  exact .visit List.not_mem_nil (catalog.walks_basesOf declaration (Nat.lt_succ_of_le room))

theorem mem_of_mem_hierarchy {catalog : Catalog} {declaring : Declaration}
    (known : declaration ∈ catalog.declarations ++ frameworkTypes)
    (among : declaring ∈ catalog.hierarchy declaration) :
    declaring ∈ catalog.declarations ++ frameworkTypes := by
  rcases (catalog.walks_hierarchy declaration).exists_path_of_mem among with ⟨first, begins, path⟩
  cases begins
  cases path with
  | refl => exact known
  | tail _ follows =>
    rcases exists_find?_of_base? follows with ⟨written, found⟩
    exact mem_of_find? found

/-- A property comes from a declaration of the hierarchy. -/
theorem mem_of_mem_allProperties {catalog : Catalog} {declared : Declaration × Property}
    (among : declared ∈ catalog.allProperties declaration) :
    declared.1 ∈ catalog.hierarchy declaration ∧ declared.2 ∈ declared.1.properties := by
  rcases List.mem_map.mp among with ⟨pair, stored, rfl⟩
  rcases List.mem_flatMap.mp (Ordered.mem_of_mem_ofList stored) with ⟨declaring, inherited, given⟩
  rcases List.mem_map.mp given with ⟨property, own, rfl⟩
  exact ⟨List.mem_reverse.mp inherited, own⟩

/-! ### Parents -/

/-- The names that a declaration gives as its interfaces and its base. -/
def parentsOf (declaration : Declaration) : List String :=
  declaration.interfaces.filterMap TypeExpr.name? ++ declaration.base.toList

/-- The names that some declaration gives as an interface or as its base. -/
def allParents : List String :=
  (catalog.declarations ++ frameworkTypes).flatMap parentsOf

theorem parents_subset_allParents : catalog.parents name ⊆ catalog.allParents := by
  unfold parents
  split
  · exact List.nil_subset _
  · next declaration found =>
    intro parent written
    exact List.mem_flatMap.mpr ⟨declaration, mem_of_find? found, written⟩

theorem length_parentsOf_le (declaration : Declaration) :
    (parentsOf declaration).length ≤ declaration.interfaces.length + 1 := by
  have interfaces := List.length_filterMap_le TypeExpr.name? declaration.interfaces
  have base : declaration.base.toList.length ≤ 1 := by
    cases declaration.base <;> simp
  rw [parentsOf, List.length_append]
  omega

/-- A declaration without a base leaves one place of the count free. -/
theorem length_flatMap_parentsOf_le (declarations : List Declaration) (count : Nat) :
    count + (declarations.flatMap parentsOf).length +
        (declarations.filter (·.base.isNone)).length ≤
      declarations.foldl (fun count declaration => count + declaration.interfaces.length + 1)
        count := by
  induction declarations generalizing count with
  | nil => simp
  | cons declaration declarations ih =>
    have others := ih (count + declaration.interfaces.length + 1)
    rw [List.foldl_cons, List.flatMap_cons, List.length_append]
    cases base : declaration.base with
    | none =>
      have own := List.length_filterMap_le TypeExpr.name? declaration.interfaces
      rw [List.filter_cons_of_pos (by simp [base]), List.length_cons, parentsOf, base]
      simp only [Option.toList_none, List.append_nil]
      omega
    | some written =>
      have own := length_parentsOf_le declaration
      rw [List.filter_cons_of_neg (by simp [base])]
      omega

theorem length_allParents_lt : catalog.allParents.length < catalog.parentCount := by
  have counted := length_flatMap_parentsOf_le (catalog.declarations ++ frameworkTypes) 0
  have framework : 0 < (frameworkTypes.filter (·.base.isNone)).length := by decide
  rw [List.filter_append, List.length_append] at counted
  rw [allParents, parentCount]
  omega

theorem spans_parents (name : String) : Spans catalog.parents (name :: catalog.allParents) := by
  intro node _ next edge
  exact Or.inl (List.mem_cons_of_mem _ (catalog.parents_subset_allParents edge))

theorem unseen_allParents_le (name : String) :
    unseen (name :: catalog.allParents) [] ≤ catalog.parentCount := by
  have most := unseen_le_length (name :: catalog.allParents) []
  have fewer := catalog.length_allParents_lt
  rw [List.length_cons] at most
  omega

/-- The search among the parents of a name does not come to its bound. -/
theorem reach_parents_of_le (name : String) (enough : catalog.parentCount + 1 ≤ bound) :
    reach catalog.parents bound [] name =
      reach catalog.parents (catalog.parentCount + 1) [] name := by
  have room := catalog.unseen_allParents_le name
  exact reach_eq_of_room (catalog.spans_parents name) (Or.inl List.mem_cons_self) (by omega)
    (by omega)

end ClientGen.Catalog

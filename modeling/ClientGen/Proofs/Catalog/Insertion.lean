import ClientGen.Proofs.Catalog.Namesakes
import ClientGen.Proofs.Command.Steps

/-!
# Inserting declarations

What a name stands for after declarations were inserted is told by the inserted declarations alone:
the last one of that full name, else the framework type of that full name, else the declaration of
the only full name with the same last segment. The full names are those that were inserted and those
of framework types, however often each of them was inserted and in whatever order: every insertion
indexes its full name, and the index has each of them once.
-/

namespace ClientGen.Catalog

open QualifiedName (lastSegment)

/-- The last of the inserted declarations that has a full name. -/
def lastNamed? (inserted : List Declaration) (name : String) : Option Declaration :=
  inserted.reverse.find? (·.name == name)

/-- The full names of inserted declarations and of framework types. -/
def knownNames (inserted : List Declaration) : List String :=
  (inserted ++ frameworkTypes).map (·.name)

/-- Whether a name stands for a declaration after declarations were inserted. -/
inductive StandsFor (inserted : List Declaration) : String → Declaration → Prop
  | inserted {name declaration} (last : lastNamed? inserted name = some declaration) :
    StandsFor inserted name declaration
  | framework {declaration} (listed : declaration ∈ frameworkTypes)
    (untouched : lastNamed? inserted declaration.name = none) :
    StandsFor inserted declaration.name declaration
  | namesake {name fullName declaration} (missing : name ∉ knownNames inserted)
    (only : ∀ other, other ∈ knownNames inserted ∧ lastSegment other = lastSegment name ↔
      other = fullName)
    (found : StandsFor inserted fullName declaration) : StandsFor inserted name declaration

variable {catalog first second : Catalog} {inserted : List Declaration} {name : String}
  {declaration framework : Declaration}

/-! ### What is stored -/

theorem ofDeclarations_concat (inserted : List Declaration) (declaration : Declaration) :
    ofDeclarations (inserted ++ [declaration]) = (ofDeclarations inserted).insert declaration := by
  simp [ofDeclarations]

theorem entries_ofDeclarations (inserted : List Declaration) :
    (ofDeclarations inserted).entries =
      Ordered.ofList (inserted.map fun declaration => (declaration.name, declaration)) := by
  induction inserted using List.reverseRecOn with
  | nil => rfl
  | append_singleton inserted declaration ih =>
    rw [ofDeclarations_concat, List.map_append, List.map_singleton, Ordered.ofList_concat, ← ih]
    rfl

theorem find?_entries_ofDeclarations (inserted : List Declaration) (name : String) :
    Ordered.find? name (ofDeclarations inserted).entries = lastNamed? inserted name := by
  rw [entries_ofDeclarations, Ordered.find?_ofList, ← List.map_reverse, List.find?_map,
    Option.map_map]
  exact Option.map_id_fun' ▸ rfl

theorem keys_ofDeclarations (inserted : List Declaration) :
    (ofDeclarations inserted).entries.map (·.1) = (inserted.map (·.name)).eraseDups := by
  rw [entries_ofDeclarations, Ordered.keys_ofList, List.map_map]
  rfl

/-- Every full name has its last declaration, in the order of the first ones. -/
theorem declarations_ofDeclarations (inserted : List Declaration) :
    (ofDeclarations inserted).declarations.map some =
      (inserted.map (·.name)).eraseDups.map (lastNamed? inserted) := by
  rw [← keys_ofDeclarations, declarations, List.map_map, List.map_map]
  apply List.map_congr_left
  intro entry stored
  have found := Ordered.find?_of_mem (ofDeclarations inserted).distinct stored
  exact (found.symm.trans (find?_entries_ofDeclarations inserted entry.1))

theorem findExact?_ofDeclarations (inserted : List Declaration) (name : String) :
    (ofDeclarations inserted).findExact? name =
      (lastNamed? inserted name).or (frameworkTypes.find? (·.name == name)) := by
  rw [findExact?, find?_entries_ofDeclarations]
  cases lastNamed? inserted name <;> rfl

theorem mem_allNames_ofDeclarations :
    name ∈ (ofDeclarations inserted).allNames ↔ name ∈ knownNames inserted := by
  rw [mem_allNames_iff, keys_ofDeclarations, List.mem_eraseDups, knownNames, List.map_append,
    List.mem_append, or_comm]

/-! ### What is indexed -/

theorem simpleNames_insert :
    (catalog.insert declaration).simpleNames = catalog.simpleNames.add declaration.name :=
  rfl

theorem simpleNames_ofDeclarations (inserted : List Declaration) :
    (ofDeclarations inserted).simpleNames =
      SimpleNames.ofNames ((frameworkTypes ++ inserted).map (·.name)) := by
  induction inserted using List.reverseRecOn with
  | nil =>
    rw [List.append_nil, ofDeclarations, List.foldl_nil, empty]
  | append_singleton inserted declaration ih =>
    have names : (frameworkTypes ++ (inserted ++ [declaration])).map (·.name) =
        (frameworkTypes ++ inserted).map (·.name) ++ [declaration.name] := by
      simp
    rw [ofDeclarations_concat, simpleNames_insert, ih, names, SimpleNames.ofNames_concat]

/-- Every full name is indexed once, in the order in which they were first given. -/
theorem candidates_ofNames (fullNames : List String) (segment : String) :
    (SimpleNames.ofNames fullNames).candidates segment =
      fullNames.eraseDups.filter (lastSegment · == segment) := by
  induction fullNames using List.reverseRecOn with
  | nil => rfl
  | append_singleton fullNames fullName ih =>
    have indexed := (SimpleNames.indexes_ofNames fullNames).mem_iff
    rw [SimpleNames.ofNames_concat, SimpleNames.candidates_add, ih, List.eraseDups_append,
      List.filter_append]
    by_cases old : fullName ∈ fullNames
    · simp [old, List.removeAll]
    · by_cases same : lastSegment fullName = segment <;>
        simp [old, same, List.removeAll, List.eraseDups_cons]

/-! ### What is found -/

theorem find?_frameworkTypes (listed : framework ∈ frameworkTypes) :
    frameworkTypes.find? (·.name == framework.name) = some framework := by
  cases found : frameworkTypes.find? (·.name == framework.name) with
  | none => simpa using List.find?_eq_none.mp found framework listed
  | some other =>
    have sameName : other.name = framework.name := by simpa using List.find?_some found
    have sameSegment : lastSegment other.name = lastSegment framework.name := by rw [sameName]
    rw [List.inj_on_of_nodup_map Framework.Entry.nodup_lastSegments
      (List.mem_of_find?_eq_some found) listed sameSegment]

theorem standsFor_of_findExact?
    (found : (ofDeclarations inserted).findExact? name = some declaration) :
    StandsFor inserted name declaration := by
  rw [findExact?_ofDeclarations, Option.or_eq_some_iff] at found
  rcases found with last | ⟨untouched, listed⟩
  · exact .inserted last
  · have named : declaration.name = name := by simpa using List.find?_some listed
    subst named
    exact .framework (List.mem_of_find?_eq_some listed) untouched

theorem namesake_iff {other : String} : (ofDeclarations inserted).Namesake name other ↔
    other ∈ knownNames inserted ∧ lastSegment other = lastSegment name := by
  rw [Namesake, mem_allNames_ofDeclarations]

theorem find?_of_standsFor (stands : StandsFor inserted name declaration) :
    (ofDeclarations inserted).find? name = some declaration := by
  induction stands with
  | @inserted name declaration last =>
    have exact := findExact?_ofDeclarations inserted name
    rw [last, Option.some_or] at exact
    rw [find?, exact]
  | @framework framework listed untouched =>
    have exact := findExact?_ofDeclarations inserted framework.name
    rw [untouched, Option.none_or, find?_frameworkTypes listed] at exact
    rw [find?, exact]
  | @namesake name fullName declaration missing only _ ih =>
    have known := (only fullName).mpr rfl
    have exact : ((ofDeclarations inserted).findExact? fullName).isSome := by
      rw [isSome_findExact?_iff, mem_allNames_ofDeclarations]
      exact known.1
    rw [find?_of_isSome_findExact? exact] at ih
    rw [← ih]
    apply find?_of_only
    · exact mt mem_allNames_ofDeclarations.mp missing
    · exact namesake_iff.mpr known
    · intro other namesake
      exact (only other).mp (namesake_iff.mp namesake)

theorem find?_ofDeclarations_iff : (ofDeclarations inserted).find? name = some declaration ↔
    StandsFor inserted name declaration := by
  constructor
  · intro found
    rcases find?_cases (ofDeclarations inserted) name with
      ⟨-, exact⟩ | ⟨missing, fullName, namesake, only, exact⟩ | ⟨-, -, unknown⟩
    · rw [exact] at found
      exact standsFor_of_findExact? found
    · rw [exact] at found
      refine .namesake (mt mem_allNames_ofDeclarations.mpr missing) ?_
        (standsFor_of_findExact? found)
      intro other
      rw [← namesake_iff]
      constructor
      · exact only other
      · rintro rfl
        exact namesake
    · rw [unknown] at found
      cases found
  · exact find?_of_standsFor

/-! ### Other histories -/

/-- What is found only depends on what is found exactly. -/
theorem map_find?_congr {β : Type} {view : Declaration → β}
    (same : ∀ name, (first.findExact? name).map view = (second.findExact? name).map view)
    (name : String) : (first.find? name).map view = (second.find? name).map view := by
  have known : ∀ name, name ∈ first.allNames ↔ name ∈ second.allNames := by
    intro name
    rw [← isSome_findExact?_iff, ← isSome_findExact?_iff, ← Option.isSome_map, same name,
      Option.isSome_map]
  have namesakes : first.Namesake name = second.Namesake name := by
    funext fullName
    rw [Namesake, Namesake, known]
  rcases first.find?_cases name with
    ⟨exact, found⟩ | ⟨missing, fullName, namesake, only, found⟩ | ⟨missing, ambiguous, unknown⟩
  · have foundToo := find?_of_isSome_findExact?
      (isSome_findExact?_iff.mpr ((known name).mp exact))
    rw [found, foundToo, same]
  · rw [namesakes] at namesake only
    rw [found, find?_of_only (mt (known name).mpr missing) namesake only, same]
  · rw [namesakes] at ambiguous
    rw [unknown, find?_eq_none_iff.mpr ⟨mt (known name).mpr missing, ambiguous⟩]

theorem map_name_findExact? (catalog : Catalog) (name : String) :
    (catalog.findExact? name).map (·.name) =
      if name ∈ catalog.allNames then some name else none := by
  cases found : catalog.findExact? name with
  | none =>
    have missing : name ∉ catalog.allNames := by simp [← isSome_findExact?_iff, found]
    simp [missing]
  | some declaration =>
    have known : name ∈ catalog.allNames := by simp [← isSome_findExact?_iff, found]
    simp [known, name_of_findExact? found]

theorem mem_allNames_insert_iff (known : declaration.name ∈ catalog.allNames) :
    name ∈ (catalog.insert declaration).allNames ↔ name ∈ catalog.allNames := by
  have keys : name ∈ (catalog.insert declaration).entries.map (·.1) ↔
      name = declaration.name ∨ name ∈ catalog.entries.map (·.1) := Ordered.mem_keys_insert
  rw [mem_allNames_iff, keys]
  constructor
  · rintro (framework | rfl | application)
    · exact mem_allNames_iff.mpr (.inl framework)
    · exact known
    · exact mem_allNames_iff.mpr (.inr application)
  · intro before
    exact (mem_allNames_iff.mp before).imp_right .inr

/-- A full name that is known is not indexed again. -/
theorem candidates_insert_of_mem (known : declaration.name ∈ catalog.allNames) (segment : String) :
    (catalog.insert declaration).simpleNames.candidates segment =
      catalog.simpleNames.candidates segment := by
  rw [simpleNames_insert, SimpleNames.candidates_add, if_neg]
  rintro ⟨rfl, fresh⟩
  exact fresh (mem_candidates_iff.mpr ⟨known, rfl⟩)

theorem lastNamed?_eq_getLast? (inserted : List Declaration) (name : String) :
    lastNamed? inserted name = (inserted.filter (·.name == name)).getLast? := by
  rw [lastNamed?, ← List.head?_filter, List.filter_reverse, List.head?_reverse]

/-- After any insertions, such as those of the declarations of some manifests, the catalog lists
every inserted full name once, in the order of the first insertions and with the last declaration,
the index has every full name once, under its last segment, and a name is found as what it stands
for. So it makes no difference in which order declarations of different names were inserted. And
inserting a full name that was known leaves what every name is found as, up to the contents of
declarations, and it leaves the index; in particular no name becomes ambiguous. -/
theorem lookup_after_inserts (inserted : List Declaration) :
    let catalog := ofDeclarations inserted
    (∀ manifests state, manifests.flatMap (·.2.types) = inserted →
      ((Command.addManifests manifests .empty).run.run state).1 = .ok catalog) ∧
    catalog.declarations.map some =
        (inserted.map (·.name)).eraseDups.map (lastNamed? inserted) ∧
    (∀ segment, catalog.simpleNames.candidates segment =
      ((frameworkTypes ++ inserted).map (·.name)).eraseDups.filter (lastSegment · == segment)) ∧
    (∀ name declaration, catalog.find? name = some declaration ↔
      StandsFor inserted name declaration) ∧
    (∀ reordered : List Declaration,
      (∀ name, reordered.filter (·.name == name) = inserted.filter (·.name == name)) →
      ∀ name, (ofDeclarations reordered).find? name = catalog.find? name) ∧
    ∀ replacement, replacement.name ∈ knownNames inserted →
      (∀ segment, (catalog.insert replacement).simpleNames.candidates segment =
        catalog.simpleNames.candidates segment) ∧
      ∀ name, ((catalog.insert replacement).find? name).map (·.name) =
        (catalog.find? name).map (·.name) := by
  refine ⟨?_, declarations_ofDeclarations inserted, ?_, ?_, ?_, ?_⟩
  · rintro manifests state rfl
    obtain ⟨told, added⟩ := Command.gives_addManifests manifests state.log
    rw [added]
  · intro segment
    rw [simpleNames_ofDeclarations, candidates_ofNames]
  · intro name declaration
    exact find?_ofDeclarations_iff
  · intro reordered sameOrder name
    have same : ∀ name, ((ofDeclarations reordered).findExact? name).map id =
        ((ofDeclarations inserted).findExact? name).map id := by
      intro name
      simp only [findExact?_ofDeclarations, lastNamed?_eq_getLast?, sameOrder name]
    simpa using map_find?_congr same name
  · intro replacement known
    have before := mem_allNames_ofDeclarations.mpr known
    constructor
    · intro segment
      exact candidates_insert_of_mem before segment
    · intro name
      apply map_find?_congr
      intro name
      simp only [map_name_findExact?, mem_allNames_insert_iff before]

theorem order_found_last :
    let order : Declaration := { name := "Shop.Order" }
    let size : Declaration := { name := "Shop.Size", kind := .enum }
    let table : Declaration := { name := "Shop.Order", kind := .struct }
    (ofDeclarations [order, size, table]).find? "Shop.Order" = some table ∧
      ∀ name, (ofDeclarations [size, order, table]).find? name =
        (ofDeclarations [order, size, table]).find? name := by
  intro order size table
  have lookup := lookup_after_inserts [order, size, table]
  refine ⟨(lookup.2.2.2.1 _ _).mpr (.inserted rfl), lookup.2.2.2.2.1 _ ?_⟩
  intro name
  by_cases isOrder : "Shop.Order" = name
  · subst isOrder
    rfl
  · simp [order, size, table, List.filter_cons, isOrder]

end ClientGen.Catalog

import ClientGen.Proofs.Catalog.Walks
import ClientGen.Proofs.Discovery.Following
import Mathlib.Data.List.Perm.Subperm

/-!
# The search comes to an end

Every class that is opened takes a name that no class had before, so no more classes are open one
inside the other than there are names left, and no table has more classes than there are names. A
bound on the search is therefore never felt: with a larger one the search does the same.
-/

namespace ClientGen

namespace Discovery

variable {server : Server} {allowed : List String → Prop} {opened : List String}
  {version : Option String} {discovery : Discovery} {bound : Nat}

/-! ### The number of classes -/

theorem Sound.mem_classNames (sound : Sound server allowed discovery) {name : String}
    (registered : name ∈ discovery.types.entries.map (·.1)) : name ∈ server.classNames := by
  rcases List.mem_map.mp registered with ⟨stored, present, rfl⟩
  rcases List.mem_iff_getElem?.mp present with ⟨place, found⟩
  have atPlace : discovery.types.at? place = some stored.2 := by
    simp [ClassTable.at?, found]
  rcases sound.described atPlace with ⟨others, -, declaration, version, known, outlined⟩
  have ownName : stored.1 = QualifiedName.className declaration.name := by
    rw [sound.lawful.keyed stored present, ← ClassEntry.name_of_named? outlined]
    exact Server.name_outline
  rw [ownName]
  exact Server.mem_classNames known

theorem Sound.size_le (sound : Sound server allowed discovery) :
    discovery.types.size ≤ server.classNames.length := by
  have among : discovery.types.entries.map (·.1) ⊆ server.classNames := by
    intro name registered
    exact sound.mem_classNames registered
  have fewer := (List.subperm_of_subset sound.lawful.distinct among).length_le
  rwa [List.length_map] at fewer

theorem length_eraseDups_le (names : List String) : names.eraseDups.length ≤ names.length := by
  cases names with
  | nil => simp
  | cons name others =>
    have fewer := List.length_filter_le (fun other => !other == name) others
    have rest := length_eraseDups_le (others.filter fun other => !other == name)
    rw [List.eraseDups_cons, List.length_cons, List.length_cons]
    omega
termination_by names.length
decreasing_by exact Nat.lt_succ_of_le (List.length_filter_le _ _)

theorem remaining_le_size (server : Server) (discovery : Discovery) :
    discovery.remaining server ≤ server.catalog.size := by
  calc discovery.remaining server
      ≤ server.classNames.length := List.length_filter_le _ _
    _ ≤ ((server.catalog.declarations ++ frameworkTypes).map fun declaration =>
          QualifiedName.className declaration.name).length := length_eraseDups_le _
    _ = server.catalog.size := by simp [Catalog.declarations, Catalog.size]

/-! ### The bound -/

theorem placed_of_remaining_le (lawful : discovery.types.Lawful) {meaning : Meaning}
    (known : meaning.Known server.catalog) (enough : discovery.remaining server ≤ bound) :
    Meaning.Placed server opened discovery
      (meaning.place (enter server version bound opened) discovery) meaning.shape := by
  have ready : Ready server opened bound opened discovery :=
    ⟨lawful, enough, fun _ among => .inl among⟩
  exact Meaning.placed_place (sound_enter (List.Subset.refl opened)) meaning discovery known ready

/-- A larger bound makes no difference to what is placed. -/
theorem place_of_remaining_le (lawful : discovery.types.Lawful) {meaning : Meaning}
    (known : meaning.Known server.catalog) (enough : discovery.remaining server ≤ bound) :
    meaning.place (enter server version bound opened) discovery =
      meaning.place (enter server version (discovery.remaining server) opened) discovery := by
  have follows : Follows server version _ opened meaning.mentions discovery _ :=
    follows_place lawful known (Nat.le_refl (discovery.remaining server))
  have roomy : Follows server version _ opened meaning.mentions discovery _ :=
    follows_place lawful known enough
  have sameDiscovery := roomy.unique follows
  refine Prod.ext ?_ sameDiscovery
  -- Both shapes have the same names, which settle them.
  have placed : Meaning.Placed server opened discovery
      (meaning.place (enter server version (discovery.remaining server) opened) discovery) _ :=
    placed_of_remaining_le lawful known (Nat.le_refl _)
  have placedToo : Meaning.Placed server opened discovery
      (meaning.place (enter server version bound opened) discovery) _ :=
    placed_of_remaining_le lawful known enough
  have named := placedToo.named
  rw [sameDiscovery] at named
  exact (placed.grown.lawful lawful).shape_unique named placed.named

/-- The size of the catalog is a bound that needs no counting of names. -/
theorem after_resolve (server : Server) (opened : List String) (version : Option String)
    (nullable : Bool) (type : TypeExpr) :
    after server [.resolve opened version nullable type] =
      (((server.catalog.meaning type).orNull nullable).place
        (enter server version server.catalog.size opened) {}).2 := by
  have known : ((server.catalog.meaning type).orNull nullable).Known server.catalog :=
    Meaning.known_orNull nullable (Catalog.known_meaningAt server.catalog .top type)
  rw [place_of_remaining_le .empty known (remaining_le_size server {})]
  rfl

/-! ### Results -/

/-- Resolving a type comes to an end, whatever the catalog declares and whatever was asked before.
There is a finite derivation for it, with no more classes open one inside the other than names of
the server were free at the start, and a larger bound on the search gives the same answer. There are
never more classes than names. And of the walks through the catalog on the way, those along bases
and those among parents, none comes to its bound either. -/
theorem resolve_terminates (server : Server) (calls : List Call) (opened : List String)
    (version : Option String) (nullable : Bool) (type : TypeExpr) :
    let discovery := after server calls
    let result := discovery.resolve server opened version nullable type
    Follows server version (discovery.remaining server) opened
        (server.catalog.meaning type).mentions discovery result.2 ∧
      (∀ bound, discovery.remaining server ≤ bound →
        ((server.catalog.meaning type).orNull nullable).place
          (enter server version bound opened) discovery = result) ∧
      result.2.types.size ≤ server.classNames.length ∧
      (∀ bound declaration, server.catalog.size + 1 ≤ bound →
        server.catalog.basesOf bound [declaration.name] declaration =
          server.catalog.basesOf (server.catalog.size + 1) [declaration.name] declaration) ∧
      ∀ bound name, server.catalog.parentCount + 1 ≤ bound →
        reach server.catalog.parents bound [] name =
          reach server.catalog.parents (server.catalog.parentCount + 1) [] name := by
  have sound : Sound server (fun _ => True) (after server calls) :=
    sound_after fun _ _ => trivial
  refine ⟨follows_resolve sound.lawful opened version nullable type, ?_, ?_, ?_, ?_⟩
  · intro bound enough
    have known := Meaning.known_orNull nullable
      (Catalog.known_meaningAt server.catalog .top type)
    exact place_of_remaining_le sound.lawful known enough
  · have later : Sound server (fun _ => True)
        ((after server calls).resolve server opened version nullable type).2 :=
      sound.resolve trivial
    exact later.size_le
  · intro bound declaration enough
    exact server.catalog.basesOf_of_le declaration enough
  · intro bound name enough
    exact server.catalog.reach_parents_of_le name enough

end Discovery

end ClientGen

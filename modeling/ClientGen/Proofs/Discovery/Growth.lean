import ClientGen.Discovery.Basic
import ClientGen.Proofs.Discovery.Known
import ClientGen.Proofs.Discovery.Outline
import ClientGen.Proofs.Model.Naming

/-!
# How a discovery grows

Between the registration of a class and the moment at which its properties are filled in, the class
is not what it should be. So nothing can be said about all classes while classes are entered. What
can be said is about the classes that were added: whoever enters a declaration leaves every class
alone that was there before, and leaves behind only new classes that are as outlined. This is
`Discovery.Extends`, which composes; `Entering.Sound` asks it of a way to enter declarations, and
everything that only enters declarations inherits it.
-/

namespace ClientGen

/-- Whether a class is as outlined for some declaration of the catalog, once the names that `name?`
gives stand for its references. Locks are left open. -/
def Server.Describes (server : Server) (opened : List String) (name? : ClassId → Option String)
    (entry : ClassEntry ClassId) : Prop :=
  ∃ declaration version, server.catalog.find? declaration.name = some declaration ∧
    entry.named? name? =
      some { server.outline opened version declaration with isReadOnly := entry.isReadOnly }

/-- A class that was not unlocked yet is as outlined with its lock. -/
theorem Server.describes_of_named? {server : Server} {opened : List String}
    {name? : ClassId → Option String} {entry : ClassEntry ClassId} {declaration : Declaration}
    (version : Option String) (known : server.catalog.find? declaration.name = some declaration)
    (named : entry.named? name? = some (server.outline opened version declaration)) :
    server.Describes opened name? entry :=
  ⟨declaration, version, known, by rw [named, ← ClassEntry.isReadOnly_of_named? named]⟩

/-- What a class is made of follows from the declaration that it names as its source. -/
theorem Server.Describes.named?_body {server : Server} {opened : List String}
    {name? : ClassId → Option String} {entry : ClassEntry ClassId}
    (described : server.Describes opened name? entry) :
    ∃ declaration, server.catalog.find? entry.sourceName = some declaration ∧
      entry.body.named? name? = some
        (if declaration.isEnum then .enum (declaration.values.map (server.enumValue declaration))
        else .object (if declaration.name ∈ opened then []
          else (server.visibleProperties declaration).map server.outlineProperty)) := by
  rcases described with ⟨declaration, version, known, outlined⟩
  refine ⟨declaration, ?_, ?_⟩
  · rw [← ClassEntry.sourceName_of_named? outlined, sourceName_outline, known]
  · rw [ClassEntry.body_of_named? outlined, body_outline]

namespace Discovery

/-- Whether `later` came from `earlier` by adding classes that are as outlined. -/
structure Extends (server : Server) (opened : List String) (earlier later : Discovery) :
    Prop where
  entries : earlier.types.entries <+: later.types.entries
  described : ∀ {place entry}, earlier.types.size ≤ place →
    later.types.at? place = some entry → server.Describes opened later.types.nameAt? entry
  lawful : earlier.types.Lawful → later.types.Lawful
  clashes : earlier.clashes <+: later.clashes
  strayed : later.strayed = earlier.strayed

variable {server : Server} {opened : List String} {earlier middle later : Discovery}

theorem Extends.nameAt? (grown : Extends server opened earlier later) {place : ClassId}
    {name : String} (named : earlier.types.nameAt? place = some name) :
    later.types.nameAt? place = some name :=
  ClassTable.nameAt?_of_prefix grown.entries named

/-- A table that did not grow has no new classes. -/
theorem Extends.of_types_eq (same : later.types = earlier.types)
    (clashes : earlier.clashes <+: later.clashes) (strayed : later.strayed = earlier.strayed) :
    Extends server opened earlier later where
  entries := by simp only [same, List.prefix_rfl]
  described := by
    intro place entry new found
    rw [same, ClassTable.at?_eq_none_of_size_le new] at found
    cases found
  lawful := by
    rw [same]
    exact id
  clashes := clashes
  strayed := strayed

theorem Extends.refl (discovery : Discovery) : Extends server opened discovery discovery :=
  .of_types_eq rfl (List.prefix_refl _) rfl

theorem Extends.trans (first : Extends server opened earlier middle)
    (second : Extends server opened middle later) : Extends server opened earlier later where
  entries := first.entries.trans second.entries
  described := by
    intro place entry new found
    by_cases between : place < middle.types.size
    · rw [ClassTable.at?_eq_of_prefix second.entries between] at found
      rcases first.described new found with ⟨declaration, version, known, outlined⟩
      exact ⟨declaration, version, known,
        ClassEntry.named?_mono (fun _ _ => second.nameAt?) outlined⟩
    · exact second.described (Nat.le_of_not_lt between) found
  lawful := second.lawful ∘ first.lawful
  clashes := first.clashes.trans second.clashes
  strayed := second.strayed.trans first.strayed

theorem Extends.note (discovery : Discovery) (notice : Notice) :
    Extends server opened discovery (discovery.note notice) :=
  .of_types_eq rfl (List.prefix_refl _) rfl

/-- Meeting a class that is in the table adds at most a clash. -/
theorem Extends.meet {discovery : Discovery} {id : ClassId} {declaration : Declaration}
    (within : id < discovery.types.size) :
    Extends server opened discovery (discovery.meet id declaration) := by
  rcases Option.isSome_iff_exists.mp (ClassTable.isSome_at?_iff.mpr within) with ⟨entry, found⟩
  simp only [Discovery.meet, found]
  split
  · exact .refl discovery
  · exact .of_types_eq rfl (List.prefix_append _ _) rfl

end Discovery

/-- Whether a declaration was entered by a discovery that grew from `earlier`. -/
structure Discovery.Entered (server : Server) (opened : List String) (earlier : Discovery)
    (declaration : Declaration) (result : ClassId × Discovery) : Prop where
  grown : Discovery.Extends server opened earlier result.2
  named : result.2.types.nameAt? result.1 = some (QualifiedName.className declaration.name)

/-- What is asked of a way to enter declarations from the discoveries that are `ready` for it. -/
structure Entering.Sound (server : Server) (opened : List String) (ready : Discovery → Prop)
    (enter : Entering) : Prop where
  keeps : ∀ {earlier later}, Discovery.Extends server opened earlier later →
    ready earlier → ready later
  enters : ∀ {declaration discovery},
    server.catalog.find? declaration.name = some declaration → ready discovery →
      Discovery.Entered server opened discovery declaration (enter declaration discovery)

namespace Meaning

variable {server : Server} {opened : List String} {ready : Discovery → Prop} {enter : Entering}

/-- Whether a shape was placed by a discovery that grew from `earlier`. -/
structure Placed (server : Server) (opened : List String) (earlier : Discovery)
    (result : Shape ClassId × Discovery) (shape : Shape String) : Prop where
  grown : Discovery.Extends server opened earlier result.2
  named : result.1.named? result.2.types.nameAt? = some shape

/-- Whether shapes were placed by a discovery that grew from `earlier`. -/
structure AllPlaced (server : Server) (opened : List String) (earlier : Discovery)
    (result : List (Shape ClassId) × Discovery) (shapes : List (Shape String)) : Prop where
  grown : Discovery.Extends server opened earlier result.2
  named : Shape.namedList? result.2.types.nameAt? result.1 = some shapes

mutual

theorem placed_place (sound : Entering.Sound server opened ready enter) :
    ∀ (meaning : Meaning) (discovery : Discovery), meaning.Known server.catalog →
      ready discovery →
        Placed server opened discovery (meaning.place enter discovery) meaning.shape
  | .mk layers nullable optional core, discovery, known, isReady => by
    have inner := placed_placeCore sound core discovery known isReady
    refine ⟨inner.grown, ?_⟩
    have named := inner.named
    rcases whole : (placeCore enter core discovery).1
    rw [whole] at named
    simp only [place, shape, whole]
    simp only [Shape.named?, Option.bind_eq_bind, Option.bind_eq_some_iff, Option.some.injEq]
      at named ⊢
    rcases named with ⟨name, referenceNamed, first, argumentsNamed, second, alternativesNamed, same⟩
    exact ⟨name, referenceNamed, first, argumentsNamed, second, alternativesNamed, by rw [← same]⟩

theorem placed_placeCore (sound : Entering.Sound server opened ready enter) :
    ∀ (core : Core) (discovery : Discovery), CoreKnown server.catalog core →
      ready discovery →
        Placed server opened discovery (placeCore enter core discovery) (coreShape core)
  | .plain kind, discovery, _, _ => ⟨.refl discovery, rfl⟩
  | .parameter name, discovery, _, _ => ⟨.refl discovery, rfl⟩
  | .enum declaration, discovery, known, isReady => by
    have entered := sound.enters known.1 isReady
    refine ⟨entered.grown, ?_⟩
    simp [placeCore, coreShape, Shape.named?, Shape.namedReference?, Shape.namedOption?,
      entered.named]
  | .object declaration arguments, discovery, known, isReady => by
    have inner := allPlaced_placeAll sound arguments discovery known.2 isReady
    have stillReady := sound.keeps inner.grown isReady
    have outer := sound.enters known.1.1 stillReady
    refine ⟨inner.grown.trans outer.grown, ?_⟩
    have argumentsNamed := Shape.namedList?_mono (fun _ _ => outer.grown.nameAt?) _ inner.named
    cases empty : arguments.isEmpty <;>
      simp [placeCore, coreShape, Shape.named?, Shape.namedReference?, Shape.namedOption?, empty,
        outer.named, argumentsNamed]
  | .undescribed name, discovery, _, _ => ⟨.note discovery _, rfl⟩

theorem allPlaced_placeAll (sound : Entering.Sound server opened ready enter) :
    ∀ (meanings : List Meaning) (discovery : Discovery), AllKnown server.catalog meanings →
      ready discovery →
        AllPlaced server opened discovery (placeAll enter meanings discovery) (shapes meanings)
  | [], discovery, _, _ => ⟨.refl discovery, rfl⟩
  | meaning :: meanings, discovery, known, isReady => by
    have first := placed_place sound meaning discovery known.1 isReady
    have others := allPlaced_placeAll sound meanings _ known.2 (sound.keeps first.grown isReady)
    refine ⟨first.grown.trans others.grown, ?_⟩
    have firstNamed := Shape.named?_mono (fun _ _ => others.grown.nameAt?) _ first.named
    simp [placeAll, shapes, Shape.namedList?, firstNamed, others.named]

end

end Meaning

end ClientGen

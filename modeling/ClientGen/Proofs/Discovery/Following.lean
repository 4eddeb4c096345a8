import ClientGen.Proofs.Discovery.Mentions
import ClientGen.Proofs.Discovery.Run
import ClientGen.Proofs.Model.Places

/-!
# Following mentions up

The search as rules, without a bound: a mention of a registered class is a meeting, a mention of a
new one registers it, and opening a class means to follow up what its properties mention, before it
is filled with the properties that are outlined for it. A derivation by these rules is finite, so a
search that has one comes to an end. The rules settle where it ends, and count how many classes are
open one inside the other.

`Discovery.follows_resolve` finds a derivation for everything that can be asked of a discovery. From
there on nothing has to be said about bounds: what the search does is what the rules allow.
-/

namespace ClientGen

namespace Discovery

/-- Whether following mentions up leads from one discovery to another one. `depth` is how many
classes may be opened one inside the other; `opened` are the declarations whose properties are being
read. -/
inductive Follows (server : Server) (version : Option String) :
    (depth : Nat) → (opened : List String) → List Mention → Discovery → Discovery → Prop
  | nothing {depth opened} (discovery : Discovery) :
    Follows server version depth opened [] discovery discovery
  | undescribed {depth opened mentions discovery later} {name : String}
    (others : Follows server version depth opened mentions
      (discovery.note (.undescribed name)) later) :
    Follows server version depth opened (.undescribed name :: mentions) discovery later
  | registered {depth opened mentions discovery later} {declaration : Declaration} {id : ClassId}
    (found : discovery.types.indexOf? (QualifiedName.className declaration.name) = some id)
    (others : Follows server version depth opened mentions
      (discovery.meet id declaration) later) :
    Follows server version depth opened (.described declaration :: mentions) discovery later
  | closed {depth opened mentions discovery later} {declaration : Declaration}
    (fresh : discovery.types.indexOf? (QualifiedName.className declaration.name) = none)
    (closed : declaration.isEnum = true ∨ declaration.name ∈ opened)
    (others : Follows server version depth opened mentions
      (discovery.register (server.newEntry version declaration)).2 later) :
    Follows server version depth opened (.described declaration :: mentions) discovery later
  | opened {depth opened mentions discovery inner later} {declaration : Declaration}
    {properties : List (ClassProperty ClassId)}
    (fresh : discovery.types.indexOf? (QualifiedName.className declaration.name) = none)
    (isOpen : ¬(declaration.isEnum = true ∨ declaration.name ∈ opened))
    (inside : Follows server version depth (opened ++ [declaration.name])
      (server.mentions declaration)
      (discovery.register (server.newEntry version declaration)).2 inner)
    (placed : ((server.visibleProperties declaration).map server.outlineProperty).mapM
      (ClassProperty.named? fun name => inner.types.indexOf? name) = some properties)
    (others : Follows server version (depth + 1) opened mentions
      (inner.fill discovery.types.size properties) later) :
    Follows server version (depth + 1) opened (.described declaration :: mentions) discovery later

variable {server : Server} {version : Option String} {depth bound : Nat}
  {opened chain : List String} {mentions others : List Mention}
  {discovery earlier middle later : Discovery} {declaration : Declaration}

namespace Follows

theorem append (first : Follows server version depth chain mentions earlier middle)
    (second : Follows server version depth chain others middle later) :
    Follows server version depth chain (mentions ++ others) earlier later := by
  induction first with
  | nothing => exact second
  | undescribed _ ih => exact .undescribed (ih second)
  | registered found _ ih => exact .registered found (ih second)
  | closed fresh isClosed _ ih => exact .closed fresh isClosed (ih second)
  | opened fresh isOpen inside placed _ _ ih => exact .opened fresh isOpen inside placed (ih second)

/-- The rules leave no choice. -/
theorem unique {otherDepth : Nat} {other : Discovery}
    (first : Follows server version depth chain mentions earlier later)
    (second : Follows server version otherDepth chain mentions earlier other) : later = other := by
  induction first generalizing otherDepth other with
  | nothing =>
    cases second
    rfl
  | undescribed _ ih =>
    cases second with
    | undescribed others => exact ih others
  | registered found _ ih =>
    cases second with
    | registered foundToo others =>
      rw [found] at foundToo
      cases foundToo
      exact ih others
    | closed fresh => simp [found] at fresh
    | opened fresh => simp [found] at fresh
  | closed fresh isClosed _ ih =>
    cases second with
    | registered found => simp [fresh] at found
    | closed _ _ others => exact ih others
    | opened _ isOpen => exact absurd isClosed isOpen
  | opened fresh isOpen _ placed _ ihInside ihOthers =>
    cases second with
    | registered found => simp [fresh] at found
    | closed _ isClosed => exact absurd isClosed isOpen
    | opened _ _ inside placedToo others =>
      cases ihInside inside
      rw [placed] at placedToo
      cases placedToo
      exact ihOthers others

end Follows

/-! ### Entering follows the rules -/

/-- Following mentions up one after the other keeps to the rules if every single one does. -/
theorem follows_foldl {ready : Discovery → Prop} {enter : Entering}
    (sound : Entering.Sound server opened ready enter)
    (follows : ∀ {declaration discovery},
      server.catalog.find? declaration.name = some declaration → ready discovery →
        Follows server version depth chain [.described declaration] discovery
          (enter declaration discovery).2)
    (known : ∀ declaration, .described declaration ∈ mentions →
      server.catalog.find? declaration.name = some declaration)
    (isReady : ready discovery) :
    Follows server version depth chain mentions discovery
      (mentions.foldl (Mention.run enter) discovery) := by
  induction mentions generalizing discovery with
  | nil => exact .nothing discovery
  | cons mention mentions ih =>
    have knownLater : ∀ declaration, .described declaration ∈ mentions →
        server.catalog.find? declaration.name = some declaration := by
      intro declaration among
      exact known declaration (List.mem_cons_of_mem _ among)
    cases mention with
    | described declaration =>
      have isKnown := known declaration List.mem_cons_self
      have entered := sound.enters isKnown isReady
      exact (follows isKnown isReady).append (ih knownLater (sound.keeps entered.grown isReady))
    | undescribed name =>
      exact .undescribed (ih knownLater (sound.keeps (.note discovery _) isReady))

theorem follows_enter (includes : opened ⊆ chain)
    (known : server.catalog.find? declaration.name = some declaration)
    (ready : Ready server opened bound chain discovery) :
    Follows server version bound chain [.described declaration] discovery
      (enter server version bound chain declaration discovery).2 := by
  -- The bound falls by one for each class that is opened, and `Ready` keeps it above zero.
  induction bound using Nat.strongRecOn generalizing chain declaration discovery with
  | _ bound ih =>
    cases found : discovery.types.indexOf? (QualifiedName.className declaration.name) with
    | some id =>
      rw [enter_of_registered found]
      exact .registered found (.nothing _)
    | none =>
      by_cases closed : declaration.isEnum = true ∨ declaration.name ∈ chain
      · rw [enter_of_closed found closed]
        exact .closed found closed (.nothing _)
      · rcases Nat.exists_eq_succ_of_ne_zero
          (Nat.ne_of_gt (bound_pos ready known found)) with ⟨smaller, rfl⟩
        rw [enter_of_open found closed]
        have longer : opened ⊆ chain ++ [declaration.name] := by
          intro name among
          exact List.mem_append_left _ (includes among)
        have inside : Ready server opened smaller (chain ++ [declaration.name])
            (discovery.register (server.newEntry version declaration)).2 :=
          ready.register known found
        have sound : Entering.Sound server opened
            (Ready server opened smaller (chain ++ [declaration.name]))
            (enter server version smaller (chain ++ [declaration.name])) := sound_enter longer
        have placed := placed_placeProperties sound (server.visibleProperties declaration) inside
        have lawful := placed.1.lawful inside.lawful
        refine .opened found closed ?_ (ClassProperty.mapM_named?_undo lawful.undoes placed.2)
          (.nothing _)
        have isObject : ¬declaration.isEnum = true := fun isEnum => closed (Or.inl isEnum)
        rw [placeProperties_eq_foldl, Server.mentions, Server.classProperties, if_neg isObject]
        refine follows_foldl sound ?_ ?_ inside
        · intro other before isKnown isReady
          exact ih smaller (Nat.lt_succ_self smaller) longer isKnown isReady
        · intro other among
          rcases List.mem_flatMap.mp among with ⟨declared, -, mentioned⟩
          exact Server.known_of_mem_propertyMentions mentioned

/-- Placing a meaning of the catalog follows the rules, with room for as many open classes as there
are names left. -/
theorem follows_place (lawful : discovery.types.Lawful) {meaning : Meaning}
    (known : meaning.Known server.catalog) (enough : discovery.remaining server ≤ bound) :
    Follows server version bound opened meaning.mentions discovery
      (meaning.place (enter server version bound opened) discovery).2 := by
  have ready : Ready server opened bound opened discovery :=
    ⟨lawful, enough, fun _ among => .inl among⟩
  rw [Meaning.place_eq_foldl]
  refine follows_foldl (sound_enter (List.Subset.refl opened)) ?_ ?_ ready
  · intro declaration before isKnown isReady
    exact follows_enter (List.Subset.refl opened) isKnown isReady
  · intro declaration among
    exact Meaning.known_of_mem_mentions meaning known among

theorem follows_resolve (lawful : discovery.types.Lawful) (opened : List String)
    (version : Option String) (nullable : Bool) (type : TypeExpr) :
    Follows server version (discovery.remaining server) opened
      (server.catalog.meaning type).mentions discovery
      (discovery.resolve server opened version nullable type).2 := by
  rw [← Meaning.mentions_orNull nullable]
  exact follows_place lawful
    (Meaning.known_orNull nullable (Catalog.known_meaningAt _ .top type)) (Nat.le_refl _)

end Discovery

end ClientGen

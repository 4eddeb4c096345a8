import ClientGen.Proofs.Discovery.Entering

/-!
# What a type mentions

As far as the discovery is concerned, placing a meaning is entering the declarations that it
mentions, one after the other; which shape comes out is a matter of names. So a mention is what one
step of the search is about, and the mentions of a type, of a property and of a whole class are
lists that depend on the catalog only.
-/

namespace ClientGen

/-- What is come across in a type: a declaration, or a name that nobody declares. -/
inductive Mention where
  | described (declaration : Declaration)
  | undescribed (name : String)

/-- The discovery after a mention was followed up. -/
def Mention.run (enter : Entering) (discovery : Discovery) : Mention → Discovery
  | .described declaration => (enter declaration discovery).2
  | .undescribed name => discovery.note (.undescribed name)

namespace Meaning

mutual

/-- What a meaning mentions. -/
def mentions : Meaning → List Mention
  | .mk _ _ _ core => coreMentions core

/-- What a core mentions. The arguments of a class come before the class. -/
def coreMentions : Core → List Mention
  | .plain _ => []
  | .parameter _ => []
  | .enum declaration => [.described declaration]
  | .object declaration arguments => allMentions arguments ++ [.described declaration]
  | .undescribed name => [.undescribed name]

/-- What some meanings mention. -/
def allMentions : List Meaning → List Mention
  | [] => []
  | meaning :: meanings => meaning.mentions ++ allMentions meanings

end

@[simp]
theorem mentions_orNull (mark : Bool) (meaning : Meaning) :
    (meaning.orNull mark).mentions = meaning.mentions := by
  cases meaning
  rfl

@[simp]
theorem kind_shape_orNull (mark : Bool) (meaning : Meaning) :
    (meaning.orNull mark).shape.kind = meaning.shape.kind := by
  cases meaning
  rfl

theorem alternatives_shape (meaning : Meaning) : meaning.shape.alternatives = none := by
  rcases meaning with ⟨layers, nullable, optional, core⟩
  cases core <;> rfl

theorem kind_place (enter : Entering) (meaning : Meaning) (discovery : Discovery) :
    (meaning.place enter discovery).1.kind = meaning.shape.kind := by
  rcases meaning with ⟨layers, nullable, optional, core⟩
  cases core <;> rfl

/-! ### Placing is following mentions up -/

mutual

theorem place_eq_foldl (enter : Entering) :
    ∀ (meaning : Meaning) (discovery : Discovery),
      (meaning.place enter discovery).2 = meaning.mentions.foldl (Mention.run enter) discovery
  | .mk _ _ _ core, discovery => placeCore_eq_foldl enter core discovery

theorem placeCore_eq_foldl (enter : Entering) :
    ∀ (core : Core) (discovery : Discovery),
      (placeCore enter core discovery).2 = (coreMentions core).foldl (Mention.run enter) discovery
  | .plain kind, discovery => rfl
  | .parameter name, discovery => rfl
  | .enum declaration, discovery => rfl
  | .object declaration arguments, discovery => by
    rw [coreMentions, List.foldl_append, ← placeAll_eq_foldl enter arguments discovery]
    rfl
  | .undescribed name, discovery => rfl

theorem placeAll_eq_foldl (enter : Entering) :
    ∀ (meanings : List Meaning) (discovery : Discovery),
      (placeAll enter meanings discovery).2 =
        (allMentions meanings).foldl (Mention.run enter) discovery
  | [], discovery => rfl
  | meaning :: meanings, discovery => by
    rw [allMentions, List.foldl_append, ← place_eq_foldl enter meaning discovery,
      ← placeAll_eq_foldl enter meanings]
    rfl

end

/-! ### Mentions are known -/

variable {catalog : Catalog} {declaration : Declaration}

mutual

theorem known_of_mem_mentions :
    ∀ meaning : Meaning, meaning.Known catalog → .described declaration ∈ meaning.mentions →
      catalog.find? declaration.name = some declaration
  | .mk _ _ _ core, known, among => known_of_mem_coreMentions core known among

theorem known_of_mem_coreMentions :
    ∀ core : Core, CoreKnown catalog core → .described declaration ∈ coreMentions core →
      catalog.find? declaration.name = some declaration
  | .plain kind, known, among => nomatch among
  | .parameter name, known, among => nomatch among
  | .enum other, known, among => by
    cases List.mem_singleton.mp among
    exact known.1
  | .object other arguments, known, among => by
    rcases List.mem_append.mp among with inside | own
    · exact known_of_mem_allMentions arguments known.2 inside
    · cases List.mem_singleton.mp own
      exact known.1.1
  | .undescribed name, known, among => by
    cases List.mem_singleton.mp among

theorem known_of_mem_allMentions :
    ∀ meanings : List Meaning, AllKnown catalog meanings →
      .described declaration ∈ allMentions meanings →
        catalog.find? declaration.name = some declaration
  | [], known, among => nomatch among
  | meaning :: meanings, known, among => by
    rcases List.mem_append.mp among with first | later
    · exact known_of_mem_mentions meaning known.1 first
    · exact known_of_mem_allMentions meanings known.2 later

end

end Meaning

namespace Server

variable (server : Server)

/-- What a property mentions. The types that are hinted at count where nothing is known about the
values. -/
def propertyMentions (property : Property) : List Mention :=
  let meaning := server.catalog.meaning property.type
  let hints := server.convention.unionTypes property
  meaning.mentions ++
    if meaning.shape.kind == .any && !hints.isEmpty then
      Meaning.allMentions (server.catalog.meanings hints)
    else []

/-- The declared properties of the class for a declaration; an enumeration has none. -/
def classProperties (declaration : Declaration) : List (Declaration × Property) :=
  if declaration.isEnum then [] else server.visibleProperties declaration

/-- What the properties of a class mention. -/
def mentions (declaration : Declaration) : List Mention :=
  (server.classProperties declaration).flatMap fun declared => server.propertyMentions declared.2

variable {server} {declaration : Declaration}

theorem known_of_mem_propertyMentions {property : Property}
    (among : .described declaration ∈ server.propertyMentions property) :
    server.catalog.find? declaration.name = some declaration := by
  rcases List.mem_append.mp among with own | hinted
  · exact Meaning.known_of_mem_mentions _ (Catalog.known_meaningAt _ .top property.type) own
  · split at hinted
    · exact Meaning.known_of_mem_allMentions _ (Catalog.allKnown_meanings _ _) hinted
    · cases hinted

theorem known_of_mem_mentions {holder : Declaration}
    (among : .described declaration ∈ server.mentions holder) :
    server.catalog.find? declaration.name = some declaration := by
  rcases List.mem_flatMap.mp among with ⟨declared, -, inside⟩
  exact known_of_mem_propertyMentions inside

end Server

namespace Discovery

variable (server : Server) (enter : Entering)

theorem placeProperty_eq_foldl (declaring : Declaration) (property : Property)
    (discovery : Discovery) :
    (placeProperty server enter declaring property discovery).2 =
      (server.propertyMentions property).foldl (Mention.run enter) discovery := by
  have placed := Meaning.place_eq_foldl enter
    ((server.catalog.meaning property.type).orNull property.nullable) discovery
  rw [Meaning.mentions_orNull] at placed
  simp only [placeProperty, Server.propertyMentions, Meaning.kind_place,
    Meaning.kind_shape_orNull, List.foldl_append, ← placed]
  split
  · exact Meaning.placeAll_eq_foldl enter _ _
  · rfl

theorem placeProperties_eq_foldl (declared : List (Declaration × Property))
    (discovery : Discovery) :
    (placeProperties server enter declared discovery).2 =
      (declared.flatMap fun declared => server.propertyMentions declared.2).foldl
        (Mention.run enter) discovery := by
  induction declared generalizing discovery with
  | nil => rfl
  | cons first others ih =>
    rw [List.flatMap_cons, List.foldl_append,
      ← placeProperty_eq_foldl server enter first.1 first.2 discovery, ← ih]
    rfl

end Discovery

end ClientGen

import ClientGen.Proofs.Discovery.Steps

/-!
# Tidy discoveries

A discovery is tidy when its classes come from declarations that are meant, when its clashes are
genuine and each on record once, and when whatever the properties of a class mention is settled. A
class that is still open has no properties, so it does not matter how far the search has come: every
step keeps a discovery tidy, and so do whole searches and unlocking.
-/

namespace ClientGen

@[simp]
theorem Server.properties_newEntry {ρ : Type} {server : Server} {version : Option String}
    {declaration : Declaration} :
    (server.newEntry version declaration : ClassEntry ρ).properties = [] := by
  unfold newEntry
  cases declaration.isEnum <;> rfl

namespace Discovery

open Relation (ReflTransGen)

variable {server : Server} {meant : Declaration → Prop} {discovery earlier later : Discovery}
  {declaration : Declaration} {id place : ClassId} {entry : ClassEntry ClassId}

/-- Whether a class comes from a declaration that is meant. -/
def Sourced (meant : Declaration → Prop) (entry : ClassEntry ClassId) : Prop :=
  ∃ declaration, meant declaration ∧ entry.name = QualifiedName.className declaration.name ∧
    entry.sourceName = declaration.name

/-- Whether what the properties of a class mention is settled, if it has got any. -/
def Answered (server : Server) (discovery : Discovery) (entry : ClassEntry ClassId) : Prop :=
  entry.properties = [] ∨
    ∀ declaration, server.catalog.find? entry.sourceName = some declaration →
      ∀ other, .described other ∈ server.mentions declaration → discovery.Settled other

/-- Whether a clash is between the declaration that a class comes from and another one that is
meant. -/
structure Genuine (meant : Declaration → Prop) (discovery : Discovery) (clash : NameClash) :
    Prop where
  different : clash.first ≠ clash.second
  source : discovery.types.HasSource clash.name clash.first
  second : ∃ declaration, meant declaration ∧
    clash.name = QualifiedName.className declaration.name ∧ clash.second = declaration.name

structure Tidy (server : Server) (meant : Declaration → Prop) (discovery : Discovery) :
    Prop where
  lawful : discovery.types.Lawful
  sourced : ∀ {place entry}, discovery.types.at? place = some entry → Sourced meant entry
  answered : ∀ {place entry}, discovery.types.at? place = some entry →
    Answered server discovery entry
  distinct : discovery.clashes.Nodup
  genuine : ∀ clash ∈ discovery.clashes, Genuine meant discovery clash

theorem Answered.of_hasSource (answered : Answered server earlier entry)
    (keeps : ∀ {name source}, earlier.types.HasSource name source →
      later.types.HasSource name source)
    (clashes : earlier.clashes <+: later.clashes) : Answered server later entry := by
  refine answered.imp_right ?_
  intro settled declaration known other mentioned
  exact (settled declaration known other mentioned).of_hasSource keeps clashes

theorem Genuine.of_hasSource {clash : NameClash} (genuine : Genuine meant earlier clash)
    (keeps : ∀ {name source}, earlier.types.HasSource name source →
      later.types.HasSource name source) : Genuine meant later clash :=
  ⟨genuine.different, keeps genuine.source, genuine.second⟩

/-- A registration adds one class. -/
theorem at?_register_eq_some {place : Nat} (version : Option String)
    (fresh : discovery.types.indexOf? (QualifiedName.className declaration.name) = none)
    (found : (discovery.register (server.newEntry version declaration)).2.types.at? place =
      some entry) :
    discovery.types.at? place = some entry ∨ entry = server.newEntry version declaration := by
  rcases register_newEntry server version fresh with ⟨-, entries, stored⟩
  have grown : Grows discovery (discovery.register (server.newEntry version declaration)).2 :=
    .register version fresh
  by_cases old : place < discovery.types.size
  · rw [ClassTable.at?_eq_of_prefix grown.entries old] at found
    exact Or.inl found
  · have last : place = discovery.types.size := by
      have within := ClassTable.isSome_at?_iff.mp (Option.isSome_of_eq_some found)
      simp only [ClassTable.size, entries, List.length_append, List.length_singleton]
        at within old ⊢
      omega
    rw [last, stored] at found
    exact Or.inr (Option.some.inj found).symm

namespace Tidy

theorem empty : Tidy server meant {} where
  lawful := .empty
  sourced := by
    intro place entry found
    simp [ClassTable.at?] at found
  answered := by
    intro place entry found
    simp [ClassTable.at?] at found
  distinct := List.nodup_nil
  genuine := by simp

/-- What is asked of the classes is all that is asked where sources and clashes are kept. -/
theorem of_classes (tidy : Tidy server meant earlier) (lawful : later.types.Lawful)
    (keeps : ∀ {name source}, earlier.types.HasSource name source →
      later.types.HasSource name source)
    (clashes : later.clashes = earlier.clashes)
    (classes : ∀ {place entry}, later.types.at? place = some entry →
      Sourced meant entry ∧ Answered server later entry) : Tidy server meant later where
  lawful := lawful
  sourced := fun found => (classes found).1
  answered := fun found => (classes found).2
  distinct := by
    rw [clashes]
    exact tidy.distinct
  genuine := by
    rw [clashes]
    intro clash recorded
    exact (tidy.genuine clash recorded).of_hasSource keeps

/-- A class that was there before is still what it should be. -/
theorem of_old (tidy : Tidy server meant earlier)
    (keeps : ∀ {name source}, earlier.types.HasSource name source →
      later.types.HasSource name source)
    (clashes : later.clashes = earlier.clashes) (found : earlier.types.at? place = some entry) :
    Sourced meant entry ∧ Answered server later entry :=
  ⟨tidy.sourced found,
    (tidy.answered found).of_hasSource keeps (by simp only [clashes, List.prefix_rfl])⟩

/-! ### Steps -/

theorem note (tidy : Tidy server meant discovery) (notice : Notice) :
    Tidy server meant (discovery.note notice) :=
  tidy.of_classes tidy.lawful (fun has => has) rfl (tidy.of_old (fun has => has) rfl)

theorem meet (tidy : Tidy server meant discovery) (isMeant : meant declaration)
    (found : discovery.types.indexOf? (QualifiedName.className declaration.name) = some id) :
    Tidy server meant (discovery.meet id declaration) := by
  rcases exists_at?_of_indexOf? tidy.lawful found with ⟨entry, atPlace, named⟩
  by_cases old : entry.sourceName = declaration.name ∨
    ⟨QualifiedName.className declaration.name, entry.sourceName, declaration.name⟩ ∈
      discovery.clashes
  · have unchanged : discovery.meet id declaration = discovery := by
      simp only [Discovery.meet, atPlace, old, if_true]
    rw [unchanged]
    exact tidy
  · have recorded : (discovery.meet id declaration).clashes = discovery.clashes ++
        [⟨QualifiedName.className declaration.name, entry.sourceName, declaration.name⟩] := by
      simp only [Discovery.meet, atPlace, old, if_false]
    rw [not_or] at old
    constructor
    · rw [types_meet]
      exact tidy.lawful
    · rw [types_meet]
      exact tidy.sourced
    · intro place other foundThere
      rw [types_meet] at foundThere
      refine (tidy.answered foundThere).of_hasSource ?_ (Grows.meet _ _ _).clashes
      rw [types_meet]
      exact fun has => has
    · rw [recorded]
      refine List.nodup_append.mpr ⟨tidy.distinct, by simp, ?_⟩
      rintro clash before other isNew rfl
      exact old.2 (List.mem_singleton.mp isNew ▸ before)
    · rw [recorded, List.forall_mem_append, List.forall_mem_singleton]
      constructor
      · intro clash before
        refine (tidy.genuine clash before).of_hasSource ?_
        rw [types_meet]
        exact fun has => has
      · constructor
        · exact old.1
        · dsimp only
          rw [types_meet]
          exact ⟨id, entry, atPlace, named, rfl⟩
        · dsimp only
          exact ⟨declaration, isMeant, rfl, rfl⟩

theorem register (tidy : Tidy server meant discovery) (version : Option String)
    (isMeant : meant declaration)
    (fresh : discovery.types.indexOf? (QualifiedName.className declaration.name) = none) :
    Tidy server meant (discovery.register (server.newEntry version declaration)).2 := by
  have grown : Grows discovery (discovery.register (server.newEntry version declaration)).2 :=
    .register version fresh
  refine tidy.of_classes tidy.lawful.register (fun has => has.of_prefix grown.entries) rfl ?_
  intro place entry found
  rcases at?_register_eq_some version fresh found with old | new
  · exact tidy.of_old (fun has => has.of_prefix grown.entries) rfl old
  · rw [new]
    exact ⟨⟨declaration, isMeant, Server.name_newEntry, Server.sourceName_newEntry⟩,
      Or.inl Server.properties_newEntry⟩

theorem fill (tidy : Tidy server meant discovery) (properties : List (ClassProperty ClassId))
    (known : server.catalog.find? declaration.name = some declaration)
    (found : discovery.types.at? id = some entry) (source : entry.sourceName = declaration.name)
    (settled : ∀ other, .described other ∈ server.mentions declaration →
      discovery.Settled other) :
    Tidy server meant (discovery.fill id properties) := by
  have later {other : Declaration} (before : discovery.Settled other) :
      (discovery.fill id properties).Settled other := before.fill found
  rw [fill_of_at? found] at later ⊢
  refine tidy.of_classes tidy.lawful.fill ClassTable.hasSource_fill.mpr rfl ?_
  intro place filled foundThere
  rcases ClassTable.at?_fill_eq_some foundThere with ⟨-, old, oldFound, rfl⟩ | unchanged
  · rw [found] at oldFound
    cases oldFound
    constructor
    · rcases tidy.sourced found with ⟨origin, isMeant, named, sourced⟩
      exact ⟨origin, isMeant, by simpa using named, by simpa using sourced⟩
    · right
      intro other otherKnown
      rw [ClassEntry.sourceName_withProperties, source, known] at otherKnown
      cases otherKnown
      intro mentioned among
      exact later (settled mentioned among)
  · exact tidy.of_old ClassTable.hasSource_fill.mpr rfl unchanged

theorem step (tidy : Tidy server meant earlier)
    (known : ∀ declaration, meant declaration →
      server.catalog.find? declaration.name = some declaration)
    (step : Step server meant earlier later) : Tidy server meant later := by
  cases step with
  | note notice => exact tidy.note notice
  | meet isMeant found => exact tidy.meet isMeant found
  | register version isMeant fresh => exact tidy.register version isMeant fresh
  | fill properties found source isMeant settled =>
    exact tidy.fill properties (known _ isMeant) found source settled

theorem steps (tidy : Tidy server meant earlier)
    (known : ∀ declaration, meant declaration →
      server.catalog.find? declaration.name = some declaration)
    (steps : ReflTransGen (Step server meant) earlier later) : Tidy server meant later := by
  induction steps with
  | refl => exact tidy
  | tail _ last ih => exact ih.step known last

/-! ### Calls -/

theorem makeWritable (tidy : Tidy server meant discovery) (shape : Shape ClassId) :
    Tidy server meant (discovery.makeWritable shape) := by
  have same := sameButLocks_makeWritable shape discovery
  refine tidy.of_classes (same.lawful tidy.lawful) same.hasSource_iff.mpr rfl ?_
  intro place entry found
  rcases same.at?_eq_some found with ⟨old, oldFound, onlyLock⟩
  have before := tidy.of_old same.hasSource_iff.mpr rfl oldFound
  rw [onlyLock]
  exact before

end Tidy

end Discovery

end ClientGen

import ClientGen.Proofs.Discovery.Following
import ClientGen.Proofs.Model.Sources
import Mathlib.Logic.Relation

/-!
# Steps of the search

What the search does at once is one of four things: it notes that a name is not declared, it meets a
class again, it registers a class, or it fills in the properties of a class. A class is filled in
when all that its properties mention is settled. So what the four steps keep is kept by every
search, and about the order of the steps nothing has to be known.
-/

namespace ClientGen

namespace Discovery

open Relation (ReflTransGen)

variable {server : Server} {version : Option String} {depth : Nat} {chain : List String}
  {mentions : List Mention} {discovery earlier middle later : Discovery}
  {declaration : Declaration} {id : ClassId}

/-! ### Growth -/

@[simp]
theorem types_meet : (discovery.meet id declaration).types = discovery.types := by
  unfold meet
  split
  · rfl
  · simp only
    split <;> rfl

/-- Whether nothing but the properties of new classes changed from one discovery to another one. -/
structure Grows (earlier later : Discovery) : Prop where
  entries : earlier.types.entries <+: later.types.entries
  clashes : earlier.clashes <+: later.clashes
  lawful : earlier.types.Lawful → later.types.Lawful

namespace Grows

theorem of_types_eq (same : later.types = earlier.types)
    (clashes : earlier.clashes <+: later.clashes) : Grows earlier later where
  entries := by simp only [same, List.prefix_rfl]
  clashes := clashes
  lawful := by
    rw [same]
    exact id

theorem refl (discovery : Discovery) : Grows discovery discovery :=
  of_types_eq rfl (List.prefix_refl _)

theorem trans (first : Grows earlier middle) (second : Grows middle later) : Grows earlier later where
  entries := first.entries.trans second.entries
  clashes := first.clashes.trans second.clashes
  lawful := second.lawful ∘ first.lawful

theorem note (discovery : Discovery) (notice : Notice) : Grows discovery (discovery.note notice) :=
  of_types_eq rfl (List.prefix_refl _)

theorem meet (discovery : Discovery) (id : ClassId) (declaration : Declaration) :
    Grows discovery (discovery.meet id declaration) := by
  refine of_types_eq types_meet ?_
  unfold Discovery.meet
  split
  · exact List.prefix_refl _
  · simp only
    split
    · exact List.prefix_refl _
    · exact List.prefix_append _ _

theorem register (version : Option String)
    (fresh : discovery.types.indexOf? (QualifiedName.className declaration.name) = none) :
    Grows discovery (discovery.register (server.newEntry version declaration)).2 where
  entries := by
    rw [(register_newEntry server version fresh).2.1]
    exact List.prefix_append _ _
  clashes := List.prefix_refl _
  lawful := ClassTable.Lawful.register

/-- A class is where it was registered until it is filled in. -/
theorem at?_registered
    (fresh : discovery.types.indexOf? (QualifiedName.className declaration.name) = none)
    (inside : Grows (discovery.register (server.newEntry version declaration)).2 later) :
    later.types.at? discovery.types.size = some (server.newEntry version declaration) :=
  ClassTable.at?_of_prefix inside.entries (register_newEntry server version fresh).2.2

/-- Opening a class leaves the old ones alone. -/
theorem opened (properties : List (ClassProperty ClassId))
    (fresh : discovery.types.indexOf? (QualifiedName.className declaration.name) = none)
    (inside : Grows (discovery.register (server.newEntry version declaration)).2 later) :
    Grows discovery (later.fill discovery.types.size properties) := by
  have grown := (register version fresh).trans inside
  rw [fill_of_at? (inside.at?_registered fresh)]
  exact ⟨ClassTable.prefix_fill grown.entries (Nat.le_refl _), grown.clashes,
    fun lawful => (grown.lawful lawful).fill⟩

end Grows

/-! ### Mentions that are settled -/

/-- Whether a mention of a declaration is accounted for: its name has a class, and if that comes from
another declaration, the clash is on record. -/
def Settled (discovery : Discovery) (declaration : Declaration) : Prop :=
  ∃ source, discovery.types.HasSource (QualifiedName.className declaration.name) source ∧
    (source ≠ declaration.name →
      ⟨QualifiedName.className declaration.name, source, declaration.name⟩ ∈ discovery.clashes)

theorem Settled.of_hasSource (settled : earlier.Settled declaration)
    (keeps : ∀ {name source}, earlier.types.HasSource name source →
      later.types.HasSource name source)
    (clashes : earlier.clashes <+: later.clashes) : later.Settled declaration := by
  rcases settled with ⟨source, has, recorded⟩
  refine ⟨source, keeps has, ?_⟩
  intro different
  exact clashes.subset (recorded different)

theorem Settled.of_grows (settled : earlier.Settled declaration) (grown : Grows earlier later) :
    later.Settled declaration :=
  settled.of_hasSource (fun has => has.of_prefix grown.entries) grown.clashes

theorem Settled.fill {entry : ClassEntry ClassId} {properties : List (ClassProperty ClassId)}
    (settled : discovery.Settled declaration) (found : discovery.types.at? id = some entry) :
    (discovery.fill id properties).Settled declaration := by
  rw [fill_of_at? found]
  exact settled.of_hasSource ClassTable.hasSource_fill.mpr (List.prefix_refl _)

theorem exists_at?_of_indexOf? (lawful : discovery.types.Lawful) {name : String}
    (found : discovery.types.indexOf? name = some id) :
    ∃ entry, discovery.types.at? id = some entry ∧ entry.name = name :=
  Option.map_eq_some_iff.mp (lawful.nameAt?_of_indexOf? found)

theorem settled_meet (lawful : discovery.types.Lawful)
    (found : discovery.types.indexOf? (QualifiedName.className declaration.name) = some id) :
    (discovery.meet id declaration).Settled declaration := by
  rcases exists_at?_of_indexOf? lawful found with ⟨entry, atPlace, named⟩
  refine ⟨entry.sourceName, ?_, ?_⟩
  · exact ClassTable.HasSource.of_prefix ⟨id, entry, atPlace, named, rfl⟩ (Grows.meet _ _ _).entries
  · intro different
    simp only [Discovery.meet, atPlace, different, false_or]
    split
    · next recorded => exact recorded
    · exact List.mem_append_right _ List.mem_cons_self

end Discovery

@[simp]
theorem Server.sourceName_newEntry {ρ : Type} {server : Server} {version : Option String}
    {declaration : Declaration} :
    (server.newEntry version declaration : ClassEntry ρ).sourceName = declaration.name := by
  simp only [newEntry, apply_ite ClassEntry.sourceName, ite_self]

namespace Discovery

open Relation (ReflTransGen)

variable {server : Server} {version : Option String} {depth : Nat} {chain : List String}
  {mentions : List Mention} {discovery earlier middle later : Discovery}
  {declaration : Declaration} {id : ClassId}

theorem settled_register (version : Option String)
    (fresh : discovery.types.indexOf? (QualifiedName.className declaration.name) = none) :
    (discovery.register (server.newEntry version declaration)).2.Settled declaration := by
  refine ⟨declaration.name, ?_, fun different => absurd rfl different⟩
  exact ⟨_, _, (register_newEntry server version fresh).2.2, Server.name_newEntry,
    Server.sourceName_newEntry⟩

namespace Follows

theorem grows (follows : Follows server version depth chain mentions earlier later) :
    Grows earlier later := by
  induction follows with
  | nothing discovery => exact .refl discovery
  | undescribed _ ih => exact (Grows.note _ _).trans ih
  | registered _ _ ih => exact (Grows.meet _ _ _).trans ih
  | closed fresh _ _ ih => exact (Grows.register version fresh).trans ih
  | opened fresh _ _ _ _ ihInside ihOthers => exact (Grows.opened _ fresh ihInside).trans ihOthers

/-- Whatever was followed up is settled. -/
theorem settles (follows : Follows server version depth chain mentions earlier later)
    (lawful : earlier.types.Lawful) :
    ∀ declaration, .described declaration ∈ mentions → later.Settled declaration := by
  induction follows with
  | nothing =>
    intro declaration among
    cases among
  | undescribed _ ih =>
    intro declaration among
    rcases List.mem_cons.mp among with same | later
    · cases same
    · exact ih lawful declaration later
  | registered found others ih =>
    intro declaration among
    rcases List.mem_cons.mp among with same | later
    · cases same
      exact (settled_meet lawful found).of_grows others.grows
    · exact ih ((Grows.meet _ _ _).lawful lawful) declaration later
  | closed fresh _ others ih =>
    intro declaration among
    rcases List.mem_cons.mp among with same | later
    · cases same
      exact (settled_register version fresh).of_grows others.grows
    · exact ih lawful.register declaration later
  | opened fresh _ inside _ others _ ihOthers =>
    intro declaration among
    rcases List.mem_cons.mp among with same | later
    · cases same
      have before := (settled_register version fresh).of_grows inside.grows
      exact (before.fill (inside.grows.at?_registered fresh)).of_grows others.grows
    · exact ihOthers ((Grows.opened _ fresh inside.grows).lawful lawful) declaration later

end Follows

theorem grows_resolve (server : Server) (opened : List String) (version : Option String)
    (nullable : Bool) (type : TypeExpr) (lawful : discovery.types.Lawful) :
    Grows discovery (discovery.resolve server opened version nullable type).2 := by
  have follows : Follows server version _ opened _ discovery
      (discovery.resolve server opened version nullable type).2 :=
    follows_resolve lawful opened version nullable type
  exact follows.grows

/-! ### Steps -/

/-- What the search does at once. `meant` are the declarations that it may come across. -/
inductive Step (server : Server) (meant : Declaration → Prop) : Discovery → Discovery → Prop
  | note (discovery : Discovery) (notice : Notice) :
    Step server meant discovery (discovery.note notice)
  | meet {discovery : Discovery} {declaration : Declaration} {id : ClassId}
    (isMeant : meant declaration)
    (found : discovery.types.indexOf? (QualifiedName.className declaration.name) = some id) :
    Step server meant discovery (discovery.meet id declaration)
  | register {discovery : Discovery} {declaration : Declaration} (version : Option String)
    (isMeant : meant declaration)
    (fresh : discovery.types.indexOf? (QualifiedName.className declaration.name) = none) :
    Step server meant discovery (discovery.register (server.newEntry version declaration)).2
  | fill {discovery : Discovery} {declaration : Declaration} {id : ClassId}
    {entry : ClassEntry ClassId} (properties : List (ClassProperty ClassId))
    (found : discovery.types.at? id = some entry) (source : entry.sourceName = declaration.name)
    (isMeant : meant declaration)
    (settled : ∀ other, .described other ∈ server.mentions declaration →
      discovery.Settled other) :
    Step server meant discovery (discovery.fill id properties)

/-- Every search is made of steps, among declarations that are meant by what is followed up. -/
theorem Follows.steps {meant : Declaration → Prop}
    (follows : Follows server version depth chain mentions earlier later)
    (lawful : earlier.types.Lawful)
    (spreads : ∀ declaration, meant declaration →
      ∀ other, .described other ∈ server.mentions declaration → meant other)
    (areMeant : ∀ declaration, .described declaration ∈ mentions → meant declaration) :
    ReflTransGen (Step server meant) earlier later := by
  have meantLater {first : Declaration} {others : List Mention}
      (all : ∀ declaration, .described declaration ∈ .described first :: others →
        meant declaration) :
      ∀ declaration, .described declaration ∈ others → meant declaration := by
    intro declaration among
    exact all declaration (List.mem_cons_of_mem _ among)
  induction follows with
  | nothing => exact .refl
  | undescribed _ ih =>
    refine .head (.note _ _) (ih lawful ?_)
    intro declaration among
    exact areMeant declaration (List.mem_cons_of_mem _ among)
  | registered found _ ih =>
    refine .head (.meet (areMeant _ List.mem_cons_self) found) ?_
    exact ih ((Grows.meet _ _ _).lawful lawful) (meantLater areMeant)
  | closed fresh _ _ ih =>
    refine .head (.register version (areMeant _ List.mem_cons_self) fresh) ?_
    exact ih lawful.register (meantLater areMeant)
  | opened fresh _ inside _ _ ihInside ihOthers =>
    have isMeant := areMeant _ List.mem_cons_self
    have settled := inside.settles lawful.register
    have others := ihOthers ((Grows.opened _ fresh inside.grows).lawful lawful)
      (meantLater areMeant)
    refine .head (.register version isMeant fresh) ?_
    refine (ihInside lawful.register (spreads _ isMeant)).trans (.head ?_ others)
    exact .fill _ (inside.grows.at?_registered fresh) Server.sourceName_newEntry isMeant settled

end Discovery

end ClientGen

import ClientGen.Proofs.Discovery.Steps

/-!
# How a discovery goes on

A class that is in the table between two calls stays there as it is. The search adds classes behind
it and does not come back to it, since the properties of a class are filled in before the call that
registered it ends; and unlocking changes nothing but locks, which it only opens. So every call goes
on from what was there before, and a run of calls does.

With the classes stay the names that are accounted for. After a type was asked for, all that it
mentions is accounted for, for good: the search that asks for it again only meets registered classes
and finds every clash on record, so it leaves the classes and the clashes alone.
-/

namespace ClientGen

namespace ClassTable

variable {ρ : Type} {table earlier middle later : ClassTable ρ} {name source : String}

/-- Whether a table goes on from an earlier one: each class of the earlier one is at its place and
under its key, and the same but for its lock, which may have been opened. -/
def Continues (earlier later : ClassTable ρ) : Prop :=
  ∀ (place : Nat) (key : String) (entry : ClassEntry ρ),
    earlier.entries[place]? = some (key, entry) →
      ∃ isReadOnly, later.entries[place]? = some (key, { entry with isReadOnly }) ∧
        (isReadOnly = true → entry.isReadOnly = true)

namespace Continues

theorem of_grown (grown : earlier.entries <+: later.entries) : Continues earlier later := by
  intro place key entry stored
  refine ⟨entry.isReadOnly, ?_, id⟩
  rcases grown with ⟨added, grows⟩
  rw [← grows, List.getElem?_append_left (List.getElem?_eq_some_iff.mp stored).1]
  exact stored

theorem trans (first : Continues earlier middle) (second : Continues middle later) :
    Continues earlier later := by
  intro place key entry stored
  rcases first place key entry stored with ⟨_, middleStored, firstOpens⟩
  rcases second place key _ middleStored with ⟨isReadOnly, laterStored, secondOpens⟩
  exact ⟨isReadOnly, laterStored, fun locked => firstOpens (secondOpens locked)⟩

theorem unlock (indices : List Nat) : Continues table (table.unlock indices) := by
  intro place key entry stored
  by_cases marked : place ∈ indices
  · exact ⟨false, by simp [ClassTable.unlock, stored, marked], nofun⟩
  · exact ⟨entry.isReadOnly, by simp [ClassTable.unlock, stored, marked], id⟩

theorem hasSource (continues : Continues earlier later) (has : earlier.HasSource name source) :
    later.HasSource name source := by
  rcases has with ⟨place, entry, found, named, sourced⟩
  rcases at?_eq_some_iff.mp found with ⟨key, stored⟩
  rcases continues place key entry stored with ⟨isReadOnly, laterStored, -⟩
  exact ⟨place, _, at?_eq_some_iff.mpr ⟨key, laterStored⟩, named, sourced⟩

end Continues

theorem continues_foldl_makeWritable (table : ClassTable ClassId) (ids : List ClassId) :
    Continues table (ids.foldl (fun types id => types.makeWritable id) table) := by
  induction ids generalizing table with
  | nil => exact .of_grown (List.prefix_refl _)
  | cons id ids ih => exact (Continues.unlock _).trans (ih (table.makeWritable id))

/-- In a lawful table, a name has a place exactly if the class there has the name. -/
theorem Lawful.indexOf?_eq_some_iff (lawful : table.Lawful) {place : Nat} :
    table.indexOf? name = some place ↔ table.nameAt? place = some name :=
  ⟨lawful.nameAt?_of_indexOf?, lawful.indexOf?_of_nameAt?⟩

end ClassTable

namespace Discovery

variable {server : Server} {version : Option String} {depth : Nat} {chain : List String}
  {mentions : List Mention} {discovery earlier middle later : Discovery}
  {declaration : Declaration} {id : ClassId}

/-! ### Calls -/

/-- Whether a discovery goes on from an earlier one. -/
structure Continues (earlier later : Discovery) : Prop where
  types : earlier.types.Continues later.types
  clashes : earlier.clashes <+: later.clashes
  lawful : earlier.types.Lawful → later.types.Lawful

namespace Continues

theorem refl (discovery : Discovery) : Continues discovery discovery :=
  ⟨.of_grown (List.prefix_refl _), List.prefix_refl _, id⟩

theorem trans (first : Continues earlier middle) (second : Continues middle later) :
    Continues earlier later :=
  ⟨first.types.trans second.types, first.clashes.trans second.clashes,
    second.lawful ∘ first.lawful⟩

theorem settled (continues : Continues earlier later) (settled : earlier.Settled declaration) :
    later.Settled declaration :=
  settled.of_hasSource continues.types.hasSource continues.clashes

end Continues

theorem continues_call (lawful : discovery.types.Lawful) (call : Call) :
    Continues discovery (call.run server discovery) := by
  cases call with
  | resolve opened version nullable type =>
    have grown := grows_resolve server opened version nullable type lawful
    exact ⟨.of_grown grown.entries, grown.clashes, grown.lawful⟩
  | makeWritable shape =>
    exact ⟨discovery.types.continues_foldl_makeWritable _, List.prefix_refl _,
      (sameButLocks_makeWritable shape discovery).lawful⟩

theorem continues_run (lawful : discovery.types.Lawful) (calls : List Call) :
    Continues discovery (discovery.run server calls) := by
  induction calls generalizing discovery with
  | nil => exact .refl discovery
  | cons call calls ih =>
    have first : Continues discovery (call.run server discovery) := continues_call lawful call
    exact first.trans (ih (first.lawful lawful))

/-- What is there between two calls stays there. However a run goes on, the classes that it had
come first among its classes: each is at its place, under its name and with everything in it,
except that its lock may have been opened. So are the clashes first among its clashes. And at any
time the classes stand under their own names, no two of them under the same one, and a name has a
place exactly if the class there has the name. -/
theorem run_continues (server : Server) (calls more : List Call) :
    let earlier := after server calls
    let later := after server (calls ++ more)
    earlier.types.Continues later.types ∧ earlier.clashes <+: later.clashes ∧
      later.types.Lawful ∧
      ∀ name place, later.types.indexOf? name = some place ↔
        later.types.nameAt? place = some name := by
  have sound : Sound server (fun _ => True) (after server calls) :=
    sound_after fun _ _ => trivial
  have further : after server (calls ++ more) = (after server calls).run server more :=
    List.foldl_append
  have continues : Continues (after server calls) ((after server calls).run server more) :=
    continues_run sound.lawful more
  have lawful := continues.lawful sound.lawful
  intro earlier later
  rw [← further] at continues lawful
  exact ⟨continues.types, continues.clashes, lawful, fun _ _ => lawful.indexOf?_eq_some_iff⟩

/-! ### Asking again -/

theorem exists_indexOf?_of_settled (lawful : discovery.types.Lawful)
    (settled : discovery.Settled declaration) :
    ∃ id, discovery.types.indexOf? (QualifiedName.className declaration.name) = some id := by
  rcases settled with ⟨source, ⟨id, entry, found, named, -⟩, -⟩
  refine ⟨id, lawful.indexOf?_of_nameAt? ?_⟩
  rw [← named]
  exact ClassTable.nameAt?_of_at? found

/-- To come across a declaration that is accounted for leaves no trace. -/
theorem meet_of_settled (lawful : discovery.types.Lawful)
    (settled : discovery.Settled declaration)
    (found : discovery.types.indexOf? (QualifiedName.className declaration.name) = some id) :
    discovery.meet id declaration = discovery := by
  rcases settled with ⟨source, has, recorded⟩
  rcases exists_at?_of_indexOf? lawful found with ⟨entry, atPlace, named⟩
  have sameSource : entry.sourceName = source :=
    lawful.hasSource_unique ⟨id, entry, atPlace, named, rfl⟩ has
  subst sameSource
  have known : entry.sourceName = declaration.name ∨
      ⟨QualifiedName.className declaration.name, entry.sourceName, declaration.name⟩ ∈
        discovery.clashes :=
    (Decidable.em _).imp_right recorded
  simp only [meet, atPlace, if_pos known]

/-- Following up what is accounted for changes neither classes nor clashes. -/
theorem Follows.unchanged (follows : Follows server version depth chain mentions earlier later)
    (lawful : earlier.types.Lawful)
    (settled : ∀ declaration, .described declaration ∈ mentions → earlier.Settled declaration) :
    later.types = earlier.types ∧ later.clashes = earlier.clashes := by
  induction follows with
  | nothing => exact ⟨rfl, rfl⟩
  | undescribed _ ih =>
    refine ih lawful ?_
    intro declaration among
    exact (settled declaration (List.mem_cons_of_mem _ among)).of_grows (Grows.note _ _)
  | registered found _ ih =>
    rw [meet_of_settled lawful (settled _ List.mem_cons_self) found] at ih
    refine ih lawful ?_
    intro declaration among
    exact settled declaration (List.mem_cons_of_mem _ among)
  | closed fresh =>
    rcases exists_indexOf?_of_settled lawful (settled _ List.mem_cons_self) with ⟨id, found⟩
    rw [fresh] at found
    cases found
  | opened fresh =>
    rcases exists_indexOf?_of_settled lawful (settled _ List.mem_cons_self) with ⟨id, found⟩
    rw [fresh] at found
    cases found

/-- Asking again changes nothing. Whatever else was asked for since, and for whatever version or
from within whichever declarations, a type that was asked for before has the same shape, and the
classes and the clashes stay as they are. -/
theorem resolve_again (server : Server) (calls more : List Call) (opened openedAgain : List String)
    (version versionAgain : Option String) (nullable : Bool) (type : TypeExpr) :
    let first := (after server calls).resolve server opened version nullable type
    let between := first.2.run server more
    let second := between.resolve server openedAgain versionAgain nullable type
    second.1 = first.1 ∧ second.2.types = between.types ∧ second.2.clashes = between.clashes := by
  intro first between second
  have sound : Sound server (fun _ => True) (after server calls) :=
    sound_after fun _ _ => trivial
  have placed := placed_resolve server opened version nullable type sound.lawful
  have lawful : first.2.types.Lawful := placed.grown.lawful sound.lawful
  have continues : Continues first.2 between := continues_run lawful more
  have lawfulBetween := continues.lawful lawful
  have settled : ∀ declaration, .described declaration ∈ (server.catalog.meaning type).mentions →
      between.Settled declaration := by
    intro declaration mentioned
    have follows : Follows server version _ opened _ _ first.2 :=
      follows_resolve sound.lawful opened version nullable type
    exact continues.settled (follows.settles sound.lawful declaration mentioned)
  have follows : Follows server versionAgain _ openedAgain _ between second.2 :=
    follows_resolve lawfulBetween openedAgain versionAgain nullable type
  rcases follows.unchanged lawfulBetween settled with ⟨types, clashes⟩
  refine ⟨?_, types, clashes⟩
  -- Both shapes have the same names in the table, which was lawful all along.
  have placedAgain := placed_resolve server openedAgain versionAgain nullable type lawfulBetween
  have named := placedAgain.named
  rw [types] at named
  exact lawfulBetween.shape_unique named
    (Shape.named?_mono (fun _ _ => nameAt?_run lawful) _ placed.named)

end Discovery

end ClientGen

import ClientGen.Model.Validate
import ClientGen.Proofs.Model.References

/-!
# Where classes come from

Actions are read one after the other, and each of them brings classes along: those that its shapes
lead to and that nobody brought before. The table is traced when every class in it can be told to
come from one of the actions so far, namely from the first one that leads to it. An action that
brings classes from which no old class can be told apart by its references keeps it so, because the
actions before cannot reach what they did not reach then.
-/

namespace ClientGen

/-- Whether a class has a version as it should: an enumeration has none. -/
def ClassEntry.OfVersion {ρ : Type} (version : Option String) (entry : ClassEntry ρ) : Prop :=
  entry.version = if entry.isEnum then none else version

/-- Whether the parameters or the payload of an action lead to a class. -/
def Action.Reaches (action : Action ClassId) (types : ClassTable ClassId) (place : ClassId) :
    Prop :=
  ∃ shape ∈ action.shapes, types.LeadsTo shape place

namespace ClassTable

/-- Whether a table has the classes of another one, and beyond them only those that some shapes lead
to, which are all of one version. -/
structure Brings (version : Option String) (shapes : List (Shape ClassId))
    (earlier later : ClassTable ClassId) : Prop where
  retains : earlier.Retains later
  reached : ∀ {place entry}, earlier.size ≤ place → later.at? place = some entry →
    ∃ shape ∈ shapes, later.LeadsTo shape place
  versions : ∀ {place entry}, earlier.size ≤ place → later.at? place = some entry →
    entry.OfVersion version

/-- Whether every class comes from one of some actions, the first one that leads to it. -/
structure Traced (actions : List (Action ClassId)) (types : ClassTable ClassId) : Prop where
  within : ∀ action ∈ actions, ∀ shape ∈ action.shapes, ∀ start ∈ shape.references,
    start < types.size
  origin : ∀ {place entry}, types.at? place = some entry →
    ∃ before action after, actions = before ++ action :: after ∧ action.Reaches types place ∧
      (∀ other ∈ before, ¬other.Reaches types place) ∧ entry.OfVersion action.version

variable {version : Option String} {shapes others : List (Shape ClassId)}
  {actions : List (Action ClassId)} {action : Action ClassId}
  {table earlier middle later : ClassTable ClassId} {place : ClassId}

theorem SameButLocks.lt_size (same : SameButLocks earlier later) {entry : ClassEntry ClassId}
    (found : later.at? place = some entry) : place < earlier.size := by
  rcases same.at?_eq_some found with ⟨old, oldFound, -⟩
  exact isSome_at?_iff.mp (Option.isSome_of_eq_some oldFound)

namespace Brings

theorem of_sameButLocks (version : Option String) (same : SameButLocks earlier later) :
    Brings version [] earlier later where
  retains := .of_sameButLocks same
  reached new found := absurd (same.lt_size found) (Nat.not_lt.mpr new)
  versions new found := absurd (same.lt_size found) (Nat.not_lt.mpr new)

theorem refl (version : Option String) (table : ClassTable ClassId) :
    Brings version [] table table :=
  of_sameButLocks version (.refl table)

/-- A class that was there in between is there afterwards, but for its lock. -/
theorem exists_between (second : Brings version others middle later) (within : place < middle.size)
    {entry : ClassEntry ClassId} (found : later.at? place = some entry) :
    ∃ old isReadOnly, middle.at? place = some old ∧ entry = { old with isReadOnly } := by
  rcases Option.isSome_iff_exists.mp (isSome_at?_iff.mpr within) with ⟨old, oldFound⟩
  rcases second.retains place old oldFound with ⟨isReadOnly, foundToo⟩
  rw [found] at foundToo
  exact ⟨old, isReadOnly, oldFound, Option.some.inj foundToo⟩

theorem trans (first : Brings version shapes earlier middle)
    (second : Brings version others middle later) :
    Brings version (shapes ++ others) earlier later where
  retains := first.retains.trans second.retains
  reached := by
    intro place entry new found
    by_cases between : place < middle.size
    · rcases second.exists_between between found with ⟨old, isReadOnly, oldFound, -⟩
      rcases first.reached new oldFound with ⟨shape, among, leads⟩
      exact ⟨shape, List.mem_append_left _ among, second.retains.leadsTo leads⟩
    · rcases second.reached (Nat.le_of_not_lt between) found with ⟨shape, among, leads⟩
      exact ⟨shape, List.mem_append_right _ among, leads⟩
  versions := by
    intro place entry new found
    by_cases between : place < middle.size
    · rcases second.exists_between between found with ⟨old, isReadOnly, oldFound, rfl⟩
      change old.OfVersion version
      exact first.versions new oldFound
    · exact second.versions (Nat.le_of_not_lt between) found

end Brings

namespace Traced

theorem empty : Traced [] {} where
  within := by simp
  origin := by
    intro place entry found
    simp [at?] at found

/-- An action that was read before leads to no new class. -/
theorem reaches_earlier (traced : Traced actions earlier) (contained : earlier.SelfContained)
    (retains : earlier.Retains later) (among : action ∈ actions)
    (reaches : action.Reaches later place) :
    place < earlier.size ∧ action.Reaches earlier place := by
  rcases reaches with ⟨shape, isOwn, leads⟩
  rcases retains.leadsTo_of_forall_lt contained (traced.within action among shape isOwn) leads with
    ⟨old, leadsBefore⟩
  exact ⟨old, shape, isOwn, leadsBefore⟩

theorem concat (traced : Traced actions earlier) (contained : earlier.SelfContained)
    (brings : Brings action.version action.shapes earlier later)
    (within : ∀ shape ∈ action.shapes, ∀ start ∈ shape.references, start < later.size) :
    Traced (actions ++ [action]) later where
  within := by
    intro other among shape isOwn start refers
    rcases List.mem_append.mp among with isEarlier | isLast
    · exact Nat.lt_of_lt_of_le (traced.within other isEarlier shape isOwn start refers)
        brings.retains.size_le
    · cases List.mem_singleton.mp isLast
      exact within shape isOwn start refers
  origin := by
    intro place entry found
    by_cases old : place < earlier.size
    · rcases brings.exists_between old found with ⟨before, isReadOnly, foundBefore, rfl⟩
      rcases traced.origin foundBefore with ⟨first, origin, rest, rfl, reaches, isFirst, ofVersion⟩
      -- The origin stays the first one, because no action leads to more old classes than before.
      refine ⟨first, origin, rest ++ [action], by simp, ?_, ?_, ofVersion⟩
      · rcases reaches with ⟨shape, isOwn, leads⟩
        exact ⟨shape, isOwn, brings.retains.leadsTo leads⟩
      · intro other among reachesNow
        have isEarlier : other ∈ first ++ origin :: rest := List.mem_append_left _ among
        exact isFirst other among
          (traced.reaches_earlier contained brings.retains isEarlier reachesNow).2
    · have new := Nat.le_of_not_lt old
      refine ⟨actions, action, [], rfl, brings.reached new found, ?_, brings.versions new found⟩
      intro other among reaches
      exact old (traced.reaches_earlier contained brings.retains among reaches).1

end Traced

end ClassTable

end ClientGen

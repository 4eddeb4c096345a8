import ClientGen.Proofs.Model.Writable

/-!
# Unlocking a class

Unlocking goes from a class to the objects that it holds. It stops at every class that is unlocked,
and these become more on the way, so which classes one branch still finds locked depends on the
branches before it. All the same the result is told by the table as it was at the beginning: a class
is unlocked then if a path of classes that were all locked leads to it. A path that is cut off by
another one is no loss, because from where it is cut the other one goes on; for the same reason it
does not matter which of two classes is unlocked first.

This needs nothing of the table: classes may refer to each other in circles or to places where there
is none, and any of them may be unlocked already.
-/

namespace ClientGen

namespace ClassTable

variable {table earlier later : ClassTable ClassId} {place id other holder held : ClassId}
  {indices seen : List ClassId} {bound : Nat}

/-! ### Locks -/

/-- Whether there is a class at a place that clients do not send. -/
def IsLocked (table : ClassTable ClassId) (place : ClassId) : Prop :=
  ∃ entry, table.at? place = some entry ∧ entry.isReadOnly = true

theorem isLocked_iff : table.IsLocked place ↔ place < table.size ∧ ¬table.IsWritable place := by
  rw [← isSome_at?_iff, IsLocked, IsWritable]
  cases table.at? place with
  | none => simp
  | some entry => simp

theorem isLocked_unlock_iff :
    (table.unlock indices).IsLocked place ↔ table.IsLocked place ∧ place ∉ indices := by
  rw [isLocked_iff, isLocked_iff, size_unlock, isWritable_unlock_iff]
  tauto

theorem objectEdges_eq_nil (missing : table.size ≤ place) : table.objectEdges place = [] := by
  rw [objectEdges, at?_eq_none_of_size_le missing]

/-- In any table, what is held is a class or leads nowhere. -/
theorem spans_objectEdges (table : ClassTable ClassId) :
    Spans table.objectEdges (List.range table.size) := by
  intro _ _ next _
  rw [List.mem_range]
  exact (Nat.lt_or_ge next table.size).imp_right objectEdges_eq_nil

theorem objectEdges_unlock : (table.unlock indices).objectEdges = table.objectEdges := by
  funext place
  rw [objectEdges, objectEdges, at?_unlock]
  cases table.at? place with
  | none => rfl
  | some entry =>
    simp only [Option.map_some]
    split <;> rfl

/-- Tables that differ in nothing but their locks, and not in these either, are the same. -/
theorem SameButLocks.eq (same : SameButLocks earlier later)
    (locks : ∀ place, later.IsWritable place ↔ earlier.IsWritable place) : later = earlier := by
  have sameEntries : later.entries = earlier.entries := by
    apply List.ext_getElem?
    intro place
    rcases same place with ⟨isReadOnly, laterStored⟩
    cases stored : earlier.entries[place]? with
    | none => rw [laterStored, stored, Option.map_none]
    | some old =>
      rw [stored, Option.map_some] at laterStored
      have here := locks place
      rw [isWritable_iff_of_at? (at?_eq_some_iff.mpr ⟨_, laterStored⟩),
        isWritable_iff_of_at? (at?_eq_some_iff.mpr ⟨_, stored⟩)] at here
      have sameLock : isReadOnly = old.2.isReadOnly := by
        rw [Bool.eq_iff_iff]
        simpa using not_congr here
      rw [laterStored, sameLock]
  cases later
  cases earlier
  exact congrArg ClassTable.mk sameEntries

/-! ### Paths of locked classes -/

/-- Whether a path of classes that are all locked, the two included, leads from one class to another
one. -/
inductive LockedPath (table : ClassTable ClassId) : ClassId → ClassId → Prop
  | here {place : ClassId} (locked : table.IsLocked place) : LockedPath table place place
  | step {holder held place : ClassId} (locked : table.IsLocked holder)
    (holds : table.HoldsObject holder held) (path : LockedPath table held place) :
    LockedPath table holder place

namespace LockedPath

theorem last (path : table.LockedPath id place) : table.IsLocked place := by
  induction path with
  | here locked => exact locked
  | step _ _ _ ih => exact ih

theorem trans (first : table.LockedPath id holder) (second : table.LockedPath holder place) :
    table.LockedPath id place := by
  induction first with
  | here => exact second
  | step locked holds _ ih => exact .step locked holds (ih second)

/-- With a class the path to it is unlocked, so what is still locked was locked before. -/
theorem of_sameButLocks (path : later.LockedPath id place) (same : SameButLocks earlier later)
    (locked : ∀ place, later.IsLocked place → earlier.IsLocked place) :
    earlier.LockedPath id place := by
  induction path with
  | here isLocked => exact .here (locked _ isLocked)
  | step isLocked holds _ ih => exact .step (locked _ isLocked) (same.holdsObject holds) ih

end LockedPath

/-- The paths that a search takes are those of locked classes, except that the search may end at a
place where there is no class. -/
theorem unseenPath_iff_lockedPath (within : place < table.size) :
    UnseenPath table.objectEdges table.writableIndices id place ↔ table.LockedPath id place := by
  have locked {node : ClassId} (exists_ : node < table.size)
      (fresh : node ∉ table.writableIndices) : table.IsLocked node := by
    rw [mem_writableIndices_iff] at fresh
    exact isLocked_iff.mpr ⟨exists_, fresh⟩
  have fresh {node : ClassId} (isLocked : table.IsLocked node) :
      node ∉ table.writableIndices := by
    rw [mem_writableIndices_iff]
    exact (isLocked_iff.mp isLocked).2
  constructor
  · intro path
    induction path with
    | here unseen => exact .here (locked within unseen)
    | step unseen edge _ ih =>
      have holds := mem_objectEdges_iff.mp edge
      exact .step (locked holds.lt_size unseen) holds (ih within)
  · intro path
    induction path with
    | here isLocked => exact .here (fresh isLocked)
    | step isLocked holds _ ih =>
      exact .step (fresh isLocked) (mem_objectEdges_iff.mpr holds) (ih within)

theorem room_of_size (table : ClassTable ClassId) (seen : List ClassId) :
    unseen (List.range table.size) seen < table.size + 1 := by
  have fewer := unseen_le_length (List.range table.size) seen
  rw [List.length_range] at fewer
  exact Nat.lt_succ_of_le fewer

/-- A class is unlocked then if it was before or a path of locked classes leads to it. -/
theorem isWritable_makeWritable_iff :
    (table.makeWritable id).IsWritable place ↔
      table.IsWritable place ∨ table.LockedPath id place := by
  have begins := (Nat.lt_or_ge id table.size).imp List.mem_range.mpr objectEdges_eq_nil
  rw [makeWritable, isWritable_unlock_iff,
    mem_reach_iff table.spans_objectEdges begins (table.room_of_size _), mem_writableIndices_iff]
  constructor
  · rintro (⟨within, old | path⟩ | old)
    · exact .inl old
    · exact .inr ((unseenPath_iff_lockedPath within).mp path)
    · exact .inl old
  · rintro (old | path)
    · exact .inr old
    · have within := (isLocked_iff.mp path.last).1
      exact .inl ⟨within, .inr ((unseenPath_iff_lockedPath within).mpr path)⟩

theorem sameButLocks_makeWritable (table : ClassTable ClassId) (id : ClassId) :
    SameButLocks table (table.makeWritable id) :=
  sameButLocks_unlock _

theorem isLocked_makeWritable_iff :
    (table.makeWritable id).IsLocked place ↔
      table.IsLocked place ∧ ¬table.LockedPath id place := by
  rw [isLocked_iff, isLocked_iff, isWritable_makeWritable_iff, makeWritable, size_unlock]
  tauto

/-! ### One after the other -/

/-- A path of locked classes is still one after another class was unlocked, unless the other class
has a path to where it leads. -/
theorem LockedPath.of_makeWritable (path : table.LockedPath other place) :
    (table.makeWritable id).LockedPath other place ∨ table.LockedPath id place := by
  have same := table.sameButLocks_makeWritable id
  induction path with
  | @here place locked =>
    by_cases reached : table.LockedPath id place
    · exact .inr reached
    · exact .inl (.here (isLocked_makeWritable_iff.mpr ⟨locked, reached⟩))
  | @step holder held place locked holds path ih =>
    by_cases reached : table.LockedPath id holder
    · exact .inr (reached.trans (.step locked holds path))
    · refine ih.imp_left (.step (isLocked_makeWritable_iff.mpr ⟨locked, reached⟩) ?_)
      exact same.symm.holdsObject holds

theorem isWritable_makeWritable_makeWritable_iff :
    ((table.makeWritable id).makeWritable other).IsWritable place ↔
      table.IsWritable place ∨ table.LockedPath id place ∨ table.LockedPath other place := by
  have same := table.sameButLocks_makeWritable id
  rw [isWritable_makeWritable_iff, isWritable_makeWritable_iff, or_assoc]
  refine or_congr_right ⟨?_, ?_⟩
  · refine Or.imp_right fun path => path.of_sameButLocks same ?_
    intro place locked
    exact (isLocked_makeWritable_iff.mp locked).1
  · rintro (path | path)
    · exact .inl path
    · exact path.of_makeWritable.symm

theorem makeWritable_makeWritable (table : ClassTable ClassId) (id : ClassId) :
    (table.makeWritable id).makeWritable id = table.makeWritable id := by
  refine (sameButLocks_makeWritable _ id).eq ?_
  intro place
  rw [isWritable_makeWritable_makeWritable_iff, isWritable_makeWritable_iff, or_self]

theorem makeWritable_comm (table : ClassTable ClassId) (id other : ClassId) :
    (table.makeWritable id).makeWritable other = (table.makeWritable other).makeWritable id := by
  have first := (table.sameButLocks_makeWritable id).trans (sameButLocks_makeWritable _ other)
  have second := (table.sameButLocks_makeWritable other).trans (sameButLocks_makeWritable _ id)
  refine (second.symm.trans first).eq ?_
  intro place
  rw [isWritable_makeWritable_makeWritable_iff, isWritable_makeWritable_makeWritable_iff,
    or_comm (a := table.LockedPath id place)]

/-! ### Without a bound -/

/-- What it means to unlock some classes one after the other: a class that is locked is unlocked,
then all that it holds, and only then the next one is looked at, in the table that this has led to.
A derivation is finite, so where there is one this comes to an end. -/
inductive Unlocks : List ClassId → ClassTable ClassId → ClassTable ClassId → Prop
  | nothing (table : ClassTable ClassId) : Unlocks [] table table
  | passed {id : ClassId} {ids : List ClassId} {table later : ClassTable ClassId}
    (notLocked : ¬table.IsLocked id) (others : Unlocks ids table later) :
    Unlocks (id :: ids) table later
  | unlocked {id : ClassId} {ids : List ClassId} {table between later : ClassTable ClassId}
    (locked : table.IsLocked id)
    (inside : Unlocks (table.objectEdges id) (table.unlock [id]) between)
    (others : Unlocks ids between later) : Unlocks (id :: ids) table later

theorem Unlocks.unique {ids : List ClassId} {another : ClassTable ClassId}
    (first : Unlocks ids table later) (second : Unlocks ids table another) : later = another := by
  induction first generalizing another with
  | nothing =>
    cases second
    rfl
  | passed notLocked _ ih =>
    cases second with
    | passed _ others => exact ih others
    | unlocked locked => exact absurd locked notLocked
  | unlocked locked _ _ ihInside ihOthers =>
    cases second with
    | passed notLocked => exact absurd locked notLocked
    | unlocked _ inside others =>
      cases ihInside inside
      exact ihOthers others

theorem unlock_unlock : (table.unlock seen).unlock [id] = table.unlock (id :: seen) := by
  have first : SameButLocks table (table.unlock seen) := sameButLocks_unlock seen
  have twice := first.trans (sameButLocks_unlock [id])
  refine ((sameButLocks_unlock (id :: seen)).symm.trans twice).eq ?_
  intro place
  rw [isWritable_unlock_iff, isWritable_unlock_iff, isWritable_unlock_iff, size_unlock,
    List.mem_singleton, List.mem_cons]
  tauto

/-- At a place where there is no class, there is nothing to unlock. -/
theorem unlock_of_missing (missing : table.size ≤ id) :
    table.unlock (id :: seen) = table.unlock seen := by
  refine ((sameButLocks_unlock seen).symm.trans (sameButLocks_unlock (id :: seen))).eq ?_
  intro place
  rw [isWritable_unlock_iff, isWritable_unlock_iff, List.mem_cons]
  have elsewhere : place < table.size → place ≠ id := fun within =>
    Nat.ne_of_lt (Nat.lt_of_lt_of_le within missing)
  tauto

theorem unlock_writableIndices : table.unlock table.writableIndices = table := by
  refine (sameButLocks_unlock _).eq ?_
  intro place
  rw [isWritable_unlock_iff, mem_writableIndices_iff, or_iff_right_of_imp fun both => both.2]

/-- Where at least all that was writable is marked, what is locked is what is not marked. -/
theorem isLocked_unlock_iff_of_known (known : table.writableIndices ⊆ seen) :
    (table.unlock seen).IsLocked place ↔ place < table.size ∧ place ∉ seen := by
  rw [isLocked_unlock_iff, isLocked_iff]
  have writable : table.IsWritable place → place ∈ seen := fun writable =>
    known (mem_writableIndices_iff.mpr writable)
  tauto

/-- A search with room unlocks what it finds in the order in which it finds it. -/
theorem unlocks_reach (known : table.writableIndices ⊆ seen)
    (room : unseen (List.range table.size) seen < bound) (ids : List ClassId) :
    Unlocks ids (table.unlock seen)
      (table.unlock (ids.foldl (reach table.objectEdges bound) seen)) := by
  induction bound generalizing seen ids with
  | zero => exact absurd room (Nat.not_lt_zero _)
  | succ bound ih =>
    induction ids generalizing seen with
    | nil => exact .nothing _
    | cons id ids ihIds =>
      rw [List.foldl_cons]
      by_cases old : id ∈ seen
      · rw [reach_succ_of_mem old]
        refine .passed ?_ (ihIds known room)
        exact fun locked => ((isLocked_unlock_iff_of_known known).mp locked).2 old
      · have grown := List.subset_cons_self id seen
        have knownToo := List.Subset.trans known grown
        rw [reach_succ_of_not_mem old]
        rcases Nat.lt_or_ge id table.size with within | missing
        · have locked := (isLocked_unlock_iff_of_known known).mpr ⟨within, old⟩
          have fewer := unseen_cons_lt (List.mem_range.mpr within) old
          have further : id :: seen ⊆
              (table.objectEdges id).foldl (reach table.objectEdges bound) (id :: seen) :=
            subset_foldl subset_reach _ _
          have inside := ih knownToo (by omega) (table.objectEdges id)
          refine .unlocked locked ?_ (ihIds ?_ ?_)
          · rw [objectEdges_unlock, unlock_unlock]
            exact inside
          · exact List.Subset.trans knownToo further
          · exact Nat.lt_of_le_of_lt (unseen_le_of_subset (List.Subset.trans grown further)) room
        · rw [objectEdges_eq_nil missing, List.foldl_nil, ← unlock_of_missing missing]
          refine .passed ?_ (ihIds knownToo ?_)
          · intro locked
            exact Nat.not_lt_of_le missing ((isLocked_unlock_iff_of_known knownToo).mp locked).1
          · exact Nat.lt_of_le_of_lt (unseen_le_of_subset grown) room

theorem unlocks_makeWritable (table : ClassTable ClassId) (id : ClassId) :
    Unlocks [id] table (table.makeWritable id) := by
  have run := unlocks_reach (List.Subset.refl _) (table.room_of_size table.writableIndices) [id]
  rwa [unlock_writableIndices] at run

/-! ### Results -/

/-- Unlocking a class comes to an end in every table, with one result. Clients may send a class then
if they were allowed to before, or if a path of classes that were all locked leads to it; and
nothing but locks has changed. To do it again changes nothing, and of two classes it does not matter
which one is unlocked first. -/
theorem makeWritable_exact (table : ClassTable ClassId) :
    (∀ id later, Unlocks [id] table later ↔ later = table.makeWritable id) ∧
      (∀ id place, (table.makeWritable id).IsWritable place ↔
        table.IsWritable place ∨ table.LockedPath id place) ∧
      (∀ id, SameButLocks table (table.makeWritable id)) ∧
      (∀ id, (table.makeWritable id).makeWritable id = table.makeWritable id) ∧
      ∀ id other,
        (table.makeWritable id).makeWritable other =
          (table.makeWritable other).makeWritable id := by
  refine ⟨?_, fun _ _ => isWritable_makeWritable_iff, table.sameButLocks_makeWritable,
    table.makeWritable_makeWritable, table.makeWritable_comm⟩
  intro id later
  constructor
  · intro unlocks
    exact unlocks.unique (table.unlocks_makeWritable id)
  · rintro rfl
    exact table.unlocks_makeWritable id

/-- What is locked behind an unlocked class stays locked, and there is nothing to unlock where there
is no class. -/
example :
    let holding (id : Nat) : ClassProperty ClassId :=
      { name := "held", isReadOnly := false, shape := { kind := .object, reference := some id } }
    let table : ClassTable ClassId := ⟨[
      ("A", { name := "A", sourceName := "A", body := .object [holding 1, holding 7] }),
      ("B", { name := "B", sourceName := "B", body := .object [holding 0, holding 2] }),
      ("C", { name := "C", sourceName := "C", body := .object [holding 3], isReadOnly := false }),
      ("D", { name := "D", sourceName := "D", body := .object [] })]⟩
    (table.makeWritable 0).writableIndices = [0, 1, 2] := by
  decide

end ClassTable

end ClientGen

import ClientGen.Model.ClassTable
import ClientGen.Proofs.Collections.Ordered

/-!
# Places and names in tables of classes

A table of discovered classes is lawful: every class stands under its own name, and no name occurs
twice. Then a place and the name of the class at it determine each other. What happens to such a
table is of three kinds: a class is added at the end, the properties of a class are filled in, and
classes are unlocked. None of them changes the name at a place.
-/

namespace ClientGen

namespace ClassTable

variable {ρ : Type} {table earlier later : ClassTable ρ} {entry : ClassEntry ρ} {name : String}
  {place : Nat}

/-- The name of the class at a place. -/
def nameAt? (table : ClassTable ρ) (place : Nat) : Option String :=
  (table.at? place).map (·.name)

/-- Every class stands under its own name, and no name occurs twice. -/
structure Lawful (table : ClassTable ρ) : Prop where
  keyed : ∀ stored ∈ table.entries, stored.1 = stored.2.name
  distinct : (table.entries.map (·.1)).Nodup

theorem at?_eq_some_iff :
    table.at? place = some entry ↔ ∃ key, table.entries[place]? = some (key, entry) := by
  simp [at?]

theorem mem_classes_iff : entry ∈ table.classes ↔ ∃ place, table.at? place = some entry := by
  simp [classes, at?, List.mem_iff_getElem?]

theorem isSome_at?_iff : (table.at? place).isSome ↔ place < table.size := by
  simp [at?, size]

theorem lt_size_of_nameAt? (named : table.nameAt? place = some name) : place < table.size := by
  rcases Option.map_eq_some_iff.mp named with ⟨entry, found, -⟩
  exact isSome_at?_iff.mp (by rw [found]; rfl)

theorem at?_eq_none_of_size_le (beyond : table.size ≤ place) : table.at? place = none := by
  rw [← Option.not_isSome_iff_eq_none, isSome_at?_iff]
  omega

namespace Lawful

theorem empty : Lawful ({} : ClassTable ρ) :=
  ⟨by simp, by simp⟩

theorem nameAt?_of_indexOf? (lawful : table.Lawful) (found : table.indexOf? name = some place) :
    table.nameAt? place = some name := by
  rcases Ordered.exists_getElem?_of_indexOf? found with ⟨entry, stored⟩
  have own : name = entry.name := lawful.keyed _ (List.mem_of_getElem? stored)
  simp [nameAt?, at?, stored, own]

theorem indexOf?_of_nameAt? (lawful : table.Lawful) (named : table.nameAt? place = some name) :
    table.indexOf? name = some place := by
  rcases Option.map_eq_some_iff.mp named with ⟨entry, found, rfl⟩
  rcases at?_eq_some_iff.mp found with ⟨key, stored⟩
  have own : key = entry.name := lawful.keyed _ (List.mem_of_getElem? stored)
  subst own
  exact Ordered.indexOf?_of_getElem? lawful.distinct stored

theorem register (lawful : table.Lawful) : (table.register entry).Lawful where
  keyed := by
    intro stored present
    rcases Ordered.mem_insert present with rfl | old
    · rfl
    · exact lawful.keyed stored old
  distinct := Ordered.nodup_keys_insert lawful.distinct

end Lawful

/-! ### Adding at the end -/

theorem entries_register_of_fresh (fresh : table.indexOf? entry.name = none) :
    (table.register entry).entries = table.entries ++ [(entry.name, entry)] :=
  Ordered.insert_of_indexOf?_eq_none fresh

theorem isSome_indexOf?_register :
    ((table.register entry).indexOf? name).isSome ↔
      name = entry.name ∨ (table.indexOf? name).isSome := by
  simp only [indexOf?, register, Ordered.isSome_indexOf?_iff, Ordered.keys_insert]
  split
  · next old =>
    constructor
    · intro known
      exact Or.inr known
    · intro known
      rcases known with rfl | known
      · exact old
      · exact known
  · simp [or_comm]

theorem placeFor_of_fresh (fresh : table.indexOf? name = none) :
    table.placeFor name = table.size := by
  simp [placeFor, fresh]

theorem at?_register_size (fresh : table.indexOf? entry.name = none) :
    (table.register entry).at? table.size = some entry := by
  simp [at?, entries_register_of_fresh fresh, size]

theorem at?_of_prefix (grown : earlier.entries <+: later.entries)
    (found : earlier.at? place = some entry) : later.at? place = some entry := by
  rcases at?_eq_some_iff.mp found with ⟨key, stored⟩
  rcases grown with ⟨added, grows⟩
  refine at?_eq_some_iff.mpr ⟨key, ?_⟩
  rw [← grows, List.getElem?_append_left (List.getElem?_eq_some_iff.mp stored).1]
  exact stored

theorem nameAt?_of_prefix (grown : earlier.entries <+: later.entries)
    (named : earlier.nameAt? place = some name) : later.nameAt? place = some name := by
  rcases Option.map_eq_some_iff.mp named with ⟨entry, found, rfl⟩
  simp [nameAt?, at?_of_prefix grown found]

/-- A place of the smaller table holds the same class in the larger one. -/
theorem at?_eq_of_prefix (grown : earlier.entries <+: later.entries)
    (within : place < earlier.size) : later.at? place = earlier.at? place := by
  rcases Option.isSome_iff_exists.mp (isSome_at?_iff.mpr within) with ⟨entry, found⟩
  rw [found, at?_of_prefix grown found]

/-! ### Filling in properties -/

variable {properties : List (ClassProperty ρ)}

@[simp]
theorem name_withProperties : (entry.withProperties properties).name = entry.name := by
  unfold ClassEntry.withProperties
  split <;> rfl

theorem at?_fill_self :
    (table.fill place properties).at? place =
      (table.at? place).map (·.withProperties properties) := by
  simp [fill, at?, Function.comp_def]

theorem at?_fill_of_ne {other : Nat} (different : other ≠ place) :
    (table.fill place properties).at? other = table.at? other := by
  simp [fill, at?, Ne.symm different]

/-- Filling in a class leaves those before it alone. -/
theorem prefix_fill (grown : earlier.entries <+: table.entries) (beyond : earlier.size ≤ place) :
    earlier.entries <+: (table.fill place properties).entries := by
  rw [List.prefix_iff_getElem?] at grown ⊢
  intro index within
  have different : place ≠ index := by
    rintro rfl
    exact Nat.not_lt_of_le beyond within
  rw [fill, List.getElem?_modify_ne _ _ different, grown index within]

@[simp]
theorem nameAt?_fill {other : Nat} :
    (table.fill place properties).nameAt? other = table.nameAt? other := by
  by_cases same : other = place
  · subst same
    simp [nameAt?, at?_fill_self, Function.comp_def]
  · simp [nameAt?, at?_fill_of_ne same]

@[simp]
theorem keys_fill :
    (table.fill place properties).entries.map (·.1) = table.entries.map (·.1) := by
  apply List.ext_getElem?
  intro index
  rw [fill, List.getElem?_map, List.getElem?_modify, Option.map_eq_map, Option.map_map,
    List.getElem?_map]
  congr 1
  funext stored
  by_cases same : place = index <;> simp [same]

theorem Lawful.fill (lawful : table.Lawful) : (table.fill place properties).Lawful where
  keyed := by
    intro stored present
    rcases List.mem_iff_getElem?.mp present with ⟨index, found⟩
    rw [ClassTable.fill, List.getElem?_modify, Option.map_eq_map, Option.map_eq_some_iff] at found
    rcases found with ⟨old, oldStored, rfl⟩
    have own := lawful.keyed old (List.mem_of_getElem? oldStored)
    split
    · simpa using own
    · exact own
  distinct := by
    rw [keys_fill]
    exact lawful.distinct

/-! ### Unlocking -/

/-- Whether two tables differ in nothing but the locks of their classes. -/
def SameButLocks (earlier later : ClassTable ρ) : Prop :=
  ∀ place : Nat, ∃ isReadOnly, later.entries[place]? =
    (earlier.entries[place]?).map fun stored => (stored.1, { stored.2 with isReadOnly })

namespace SameButLocks

theorem refl (table : ClassTable ρ) : SameButLocks table table := by
  intro place
  cases table.entries[place]? with
  | none => exact ⟨true, rfl⟩
  | some stored => exact ⟨stored.2.isReadOnly, rfl⟩

theorem trans {middle : ClassTable ρ} (first : SameButLocks earlier middle)
    (second : SameButLocks middle later) : SameButLocks earlier later := by
  intro place
  rcases first place with ⟨_, middleStored⟩
  rcases second place with ⟨isReadOnly, laterStored⟩
  refine ⟨isReadOnly, ?_⟩
  rw [laterStored, middleStored, Option.map_map]
  rfl

theorem at?_eq_some (same : SameButLocks earlier later) (found : later.at? place = some entry) :
    ∃ old, earlier.at? place = some old ∧ entry = { old with isReadOnly := entry.isReadOnly } := by
  rcases same place with ⟨isReadOnly, laterStored⟩
  rw [at?, laterStored, Option.map_map, Option.map_eq_some_iff] at found
  rcases found with ⟨stored, earlierStored, rfl⟩
  exact ⟨stored.2, at?_eq_some_iff.mpr ⟨stored.1, earlierStored⟩, rfl⟩

theorem symm (same : SameButLocks earlier later) : SameButLocks later earlier := by
  intro place
  rcases same place with ⟨isReadOnly, laterStored⟩
  cases stored : earlier.entries[place]? with
  | none => exact ⟨true, by rw [laterStored, stored]; rfl⟩
  | some old => exact ⟨old.2.isReadOnly, by rw [laterStored, stored]; rfl⟩

theorem nameAt? (same : SameButLocks earlier later) : later.nameAt? = earlier.nameAt? := by
  funext place
  rcases same place with ⟨isReadOnly, laterStored⟩
  simp [ClassTable.nameAt?, at?, laterStored, Function.comp_def]

theorem lawful (same : SameButLocks earlier later) (lawful : earlier.Lawful) : later.Lawful where
  keyed := by
    intro stored present
    rcases List.mem_iff_getElem?.mp present with ⟨place, laterStored⟩
    rcases same place with ⟨isReadOnly, samePlace⟩
    rw [samePlace, Option.map_eq_some_iff] at laterStored
    rcases laterStored with ⟨old, earlierStored, rfl⟩
    exact lawful.keyed old (List.mem_of_getElem? earlierStored)
  distinct := by
    have sameKeys : later.entries.map (·.1) = earlier.entries.map (·.1) := by
      apply List.ext_getElem?
      intro place
      rcases same place with ⟨isReadOnly, samePlace⟩
      simp [samePlace, Function.comp_def]
    rw [sameKeys]
    exact lawful.distinct

end SameButLocks

theorem sameButLocks_unlock (indices : List Nat) : SameButLocks table (table.unlock indices) := by
  intro place
  rw [unlock, List.getElem?_mapIdx]
  by_cases marked : place ∈ indices
  · exact ⟨false, by simp [marked]⟩
  · rcases SameButLocks.refl table place with ⟨isReadOnly, unchanged⟩
    refine ⟨isReadOnly, ?_⟩
    rw [← unchanged]
    simp [marked]

end ClassTable

end ClientGen

import ClientGen.Proofs.Model.Table

/-!
# Sources of classes

Every class names the declaration that registered it. The source under a name is settled when the
name is registered: neither growth nor filling in properties nor unlocking changes it.
-/

namespace ClientGen

namespace ClassEntry

variable {ρ : Type} {entry : ClassEntry ρ} {properties : List (ClassProperty ρ)}

@[simp]
theorem sourceName_withProperties :
    (entry.withProperties properties).sourceName = entry.sourceName := by
  unfold withProperties
  split <;> rfl

@[simp]
theorem isReadOnly_withProperties :
    (entry.withProperties properties).isReadOnly = entry.isReadOnly := by
  unfold withProperties
  split <;> rfl

end ClassEntry

namespace ClassTable

variable {ρ : Type} {table earlier later : ClassTable ρ} {entry other : ClassEntry ρ}
  {name source : String} {place index : Nat} {properties : List (ClassProperty ρ)}

/-- Whether the class of a name comes from a declaration. -/
def HasSource (table : ClassTable ρ) (name source : String) : Prop :=
  ∃ place entry, table.at? place = some entry ∧ entry.name = name ∧ entry.sourceName = source

/-! ### Classes in lawful tables -/

theorem nameAt?_of_at? (found : table.at? place = some entry) :
    table.nameAt? place = some entry.name := by
  rw [nameAt?, found]
  rfl

/-- A name stands at one place only. -/
theorem Lawful.place_unique (lawful : table.Lawful) (first : table.nameAt? place = some name)
    (second : table.nameAt? index = some name) : place = index := by
  have atFirst := lawful.indexOf?_of_nameAt? first
  have atSecond := lawful.indexOf?_of_nameAt? second
  rw [atFirst] at atSecond
  exact Option.some.inj atSecond

theorem Lawful.entry_unique (lawful : table.Lawful) (first : table.at? place = some entry)
    (second : table.at? index = some other) (sameName : entry.name = other.name) :
    entry = other := by
  have samePlace : place = index := by
    refine lawful.place_unique (nameAt?_of_at? first) ?_
    rw [sameName]
    exact nameAt?_of_at? second
  rw [samePlace, second] at first
  exact (Option.some.inj first).symm

theorem Lawful.find?_of_at? (lawful : table.Lawful) (found : table.at? place = some entry) :
    table.find? entry.name = some entry := by
  rcases at?_eq_some_iff.mp found with ⟨key, stored⟩
  have own : key = entry.name := lawful.keyed _ (List.mem_of_getElem? stored)
  rw [← own]
  exact Ordered.find?_of_mem lawful.distinct (List.mem_of_getElem? stored)

theorem exists_at?_of_find? (found : table.find? name = some entry) :
    ∃ place, table.at? place = some entry := by
  rcases List.mem_iff_getElem?.mp (Ordered.mem_of_find? found) with ⟨place, stored⟩
  exact ⟨place, at?_eq_some_iff.mpr ⟨name, stored⟩⟩

theorem Lawful.name_of_find? (lawful : table.Lawful) (found : table.find? name = some entry) :
    entry.name = name :=
  (lawful.keyed _ (Ordered.mem_of_find? found)).symm

theorem Lawful.hasSource_unique (lawful : table.Lawful) {another : String}
    (first : table.HasSource name source) (second : table.HasSource name another) :
    source = another := by
  rcases first with ⟨place, entry, found, rfl, rfl⟩
  rcases second with ⟨index, other, foundToo, sameName, rfl⟩
  rw [lawful.entry_unique found foundToo sameName.symm]

theorem Lawful.nodup_names (lawful : table.Lawful) : (table.classes.map (·.name)).Nodup := by
  have sameNames : table.classes.map (·.name) = table.entries.map (·.1) := by
    rw [classes, List.map_map]
    refine List.map_congr_left ?_
    intro stored present
    exact (lawful.keyed stored present).symm
  rw [sameNames]
  exact lawful.distinct

/-! ### What keeps sources -/

theorem HasSource.of_prefix (has : earlier.HasSource name source)
    (grown : earlier.entries <+: later.entries) : later.HasSource name source := by
  rcases has with ⟨place, entry, found, named, sourced⟩
  exact ⟨place, entry, at?_of_prefix grown found, named, sourced⟩

/-- A filled table holds what was there before, but for the properties at one place. -/
theorem at?_fill_eq_some (found : (table.fill place properties).at? index = some entry) :
    (index = place ∧ ∃ old, table.at? place = some old ∧ entry = old.withProperties properties) ∨
      table.at? index = some entry := by
  by_cases own : index = place
  · subst own
    rw [at?_fill_self] at found
    rcases Option.map_eq_some_iff.mp found with ⟨old, oldFound, rfl⟩
    exact Or.inl ⟨rfl, old, oldFound, rfl⟩
  · rw [at?_fill_of_ne own] at found
    exact Or.inr found

theorem hasSource_fill :
    (table.fill place properties).HasSource name source ↔ table.HasSource name source := by
  constructor
  · rintro ⟨index, entry, found, rfl, rfl⟩
    rcases at?_fill_eq_some found with ⟨-, old, oldFound, rfl⟩ | unchanged
    · exact ⟨place, old, oldFound, by simp, by simp⟩
    · exact ⟨index, entry, unchanged, rfl, rfl⟩
  · rintro ⟨index, entry, found, rfl, rfl⟩
    by_cases own : index = place
    · subst own
      refine ⟨index, entry.withProperties properties, ?_, by simp, by simp⟩
      rw [at?_fill_self, found]
      rfl
    · refine ⟨index, entry, ?_, rfl, rfl⟩
      rw [at?_fill_of_ne own]
      exact found

theorem SameButLocks.hasSource (same : SameButLocks earlier later)
    (has : later.HasSource name source) : earlier.HasSource name source := by
  rcases has with ⟨place, entry, found, named, sourced⟩
  rcases same.at?_eq_some found with ⟨old, oldFound, onlyLock⟩
  rw [onlyLock] at named sourced
  exact ⟨place, old, oldFound, named, sourced⟩

theorem SameButLocks.hasSource_iff (same : SameButLocks earlier later) :
    later.HasSource name source ↔ earlier.HasSource name source :=
  ⟨same.hasSource, same.symm.hasSource⟩

end ClassTable

end ClientGen

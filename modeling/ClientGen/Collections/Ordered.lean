/-!
# Association lists in order of insertion

A list of pairs in which every key occurs once. Storing a value under a key that is there already
replaces the value and keeps its place.
-/

namespace ClientGen.Ordered

variable {κ α : Type} [DecidableEq κ]

/-- Stores a value under a key. -/
def insert (key : κ) (value : α) : List (κ × α) → List (κ × α)
  | [] => [(key, value)]
  | entry :: others =>
    if entry.1 = key then (key, value) :: others else entry :: insert key value others

/-- The value under a key. -/
def find? (key : κ) : List (κ × α) → Option α
  | [] => none
  | entry :: others => if entry.1 = key then some entry.2 else find? key others

/-- The place of a key. -/
def indexOf? (key : κ) : List (κ × α) → Option Nat
  | [] => none
  | entry :: others => if entry.1 = key then some 0 else (indexOf? key others).map (· + 1)

/-- Stores pairs one after the other. -/
def insertAll (pairs entries : List (κ × α)) : List (κ × α) :=
  pairs.foldl (fun entries pair => insert pair.1 pair.2 entries) entries

/-- The pairs of a list, of which the last one counts for every key. -/
def ofList (pairs : List (κ × α)) : List (κ × α) :=
  insertAll pairs []

variable {key : κ} {value : α} {entries : List (κ × α)}

theorem mem_insert {entry : κ × α} (stored : entry ∈ insert key value entries) :
    entry = (key, value) ∨ entry ∈ entries := by
  induction entries with
  | nil => exact .inl (List.mem_singleton.mp stored)
  | cons first others ih =>
    simp only [insert] at stored
    split at stored
    · rcases List.mem_cons.mp stored with rfl | old
      · exact .inl rfl
      · exact .inr (List.mem_cons_of_mem _ old)
    · rcases List.mem_cons.mp stored with rfl | later
      · exact .inr List.mem_cons_self
      · exact (ih later).imp_right (List.mem_cons_of_mem _)

theorem keys_insert :
    (insert key value entries).map (·.1) =
      if key ∈ entries.map (·.1) then entries.map (·.1) else entries.map (·.1) ++ [key] := by
  induction entries with
  | nil => simp [insert]
  | cons first others ih =>
    by_cases same : first.1 = key
    · simp [insert, same]
    · simp only [insert, same, if_false, List.map_cons, ih, List.mem_cons, Ne.symm same, false_or]
      split <;> simp

theorem nodup_keys_insert (distinct : (entries.map (·.1)).Nodup) :
    ((insert key value entries).map (·.1)).Nodup := by
  rw [keys_insert]
  split
  · exact distinct
  · next fresh =>
    refine List.nodup_append.mpr ⟨distinct, by simp, ?_⟩
    rintro other isOld _ isNew rfl
    exact fresh (List.mem_singleton.mp isNew ▸ isOld)

theorem mem_keys_insert {other : κ} :
    other ∈ (insert key value entries).map (·.1) ↔ other = key ∨ other ∈ entries.map (·.1) := by
  rw [keys_insert]
  split
  · next old =>
    constructor
    · exact .inr
    · rintro (rfl | stored)
      · exact old
      · exact stored
  · rw [List.mem_append, List.mem_singleton, or_comm]

theorem find?_insert {other : κ} :
    find? key (insert other value entries) =
      if other = key then some value else find? key entries := by
  induction entries with
  | nil => rfl
  | cons first others ih =>
    by_cases stored : first.1 = other
    · by_cases same : other = key
      · simp [insert, find?, stored, same]
      · simp [insert, find?, stored, same]
    · by_cases same : other = key
      · subst same
        simp [insert, find?, stored, ih]
      · simp [insert, find?, stored, same, ih]

end ClientGen.Ordered

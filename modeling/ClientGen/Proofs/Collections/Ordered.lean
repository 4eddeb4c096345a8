import ClientGen.Collections.Ordered
import Mathlib.Data.List.Induction

/-!
# Places in association lists

Under distinct keys a key and its place determine each other. A list that is only ever extended at
its end keeps the place of every key.
-/

namespace ClientGen.Ordered

variable {κ α : Type} [DecidableEq κ] {key : κ} {value : α} {entries : List (κ × α)}

theorem indexOf?_eq_none_iff : indexOf? key entries = none ↔ key ∉ entries.map (·.1) := by
  induction entries with
  | nil => simp [indexOf?]
  | cons first others ih =>
    by_cases same : first.1 = key
    · simp [indexOf?, same]
    · simp only [indexOf?, same, if_false, Option.map_eq_none_iff, ih, List.map_cons,
        List.mem_cons, Ne.symm same, false_or]

theorem isSome_indexOf?_iff : (indexOf? key entries).isSome ↔ key ∈ entries.map (·.1) := by
  rw [← not_iff_not, Option.not_isSome_iff_eq_none]
  exact indexOf?_eq_none_iff

/-- A key that is not there yet is stored at the end. -/
theorem insert_of_indexOf?_eq_none (fresh : indexOf? key entries = none) :
    insert key value entries = entries ++ [(key, value)] := by
  induction entries with
  | nil => rfl
  | cons first others ih =>
    by_cases same : first.1 = key
    · simp [indexOf?, same] at fresh
    · simp only [indexOf?, same, if_false, Option.map_eq_none_iff] at fresh
      simp [insert, same, ih fresh]

theorem exists_getElem?_of_indexOf? {place : Nat} (found : indexOf? key entries = some place) :
    ∃ value, entries[place]? = some (key, value) := by
  induction entries generalizing place with
  | nil => simp [indexOf?] at found
  | cons first others ih =>
    by_cases same : first.1 = key
    · simp only [indexOf?, same, if_true, Option.some.injEq] at found
      subst found
      exact ⟨first.2, by simp [← same]⟩
    · simp only [indexOf?, same, if_false, Option.map_eq_some_iff] at found
      rcases found with ⟨before, earlier, rfl⟩
      simpa using ih earlier

theorem indexOf?_of_getElem? (distinct : (entries.map (·.1)).Nodup) {place : Nat}
    (stored : entries[place]? = some (key, value)) : indexOf? key entries = some place := by
  induction entries generalizing place with
  | nil => simp at stored
  | cons first others ih =>
    rw [List.map_cons, List.nodup_cons] at distinct
    cases place with
    | zero =>
      simp only [List.getElem?_cons_zero, Option.some.injEq] at stored
      simp [indexOf?, stored]
    | succ before =>
      rw [List.getElem?_cons_succ] at stored
      have different : first.1 ≠ key := by
        rintro rfl
        exact distinct.1 (List.mem_map.mpr ⟨_, List.mem_of_getElem? stored, rfl⟩)
      simp [indexOf?, different, ih distinct.2 stored]

theorem mem_of_find? (found : find? key entries = some value) : (key, value) ∈ entries := by
  induction entries with
  | nil => simp [find?] at found
  | cons first others ih =>
    by_cases same : first.1 = key
    · simp only [find?, same, if_true, Option.some.injEq] at found
      exact List.mem_cons.mpr (.inl (by rw [← same, ← found]))
    · simp only [find?, same, if_false] at found
      exact List.mem_cons_of_mem _ (ih found)

theorem find?_of_mem (distinct : (entries.map (·.1)).Nodup) (stored : (key, value) ∈ entries) :
    find? key entries = some value := by
  induction entries with
  | nil => cases stored
  | cons first others ih =>
    rw [List.map_cons, List.nodup_cons] at distinct
    rcases List.mem_cons.mp stored with rfl | later
    · simp [find?]
    · have different : first.1 ≠ key := by
        rintro rfl
        exact distinct.1 (List.mem_map.mpr ⟨_, later, rfl⟩)
      simp [find?, different, ih distinct.2 later]

theorem isSome_find?_iff : (find? key entries).isSome ↔ key ∈ entries.map (·.1) := by
  induction entries with
  | nil => simp [find?]
  | cons first others ih =>
    by_cases same : first.1 = key
    · simp [find?, same]
    · simp only [find?, same, if_false, ih, List.map_cons, List.mem_cons, Ne.symm same, false_or]

/-! ### Storing many pairs -/

theorem mem_keys_insertAll {pairs : List (κ × α)} :
    key ∈ (insertAll pairs entries).map (·.1) ↔
      key ∈ pairs.map (·.1) ∨ key ∈ entries.map (·.1) := by
  induction pairs generalizing entries with
  | nil => simp [insertAll]
  | cons first others ih =>
    rw [insertAll, List.foldl_cons, ← insertAll, ih, mem_keys_insert, List.map_cons, List.mem_cons,
      or_left_comm, or_assoc]

theorem mem_keys_ofList {pairs : List (κ × α)} :
    key ∈ (ofList pairs).map (·.1) ↔ key ∈ pairs.map (·.1) := by
  rw [ofList, mem_keys_insertAll]
  simp

theorem mem_of_mem_insertAll {pairs : List (κ × α)} {pair : κ × α}
    (stored : pair ∈ insertAll pairs entries) : pair ∈ pairs ∨ pair ∈ entries := by
  induction pairs generalizing entries with
  | nil => exact .inr stored
  | cons first others ih =>
    rcases ih stored with later | before
    · exact .inl (List.mem_cons_of_mem _ later)
    · rcases mem_insert before with rfl | old
      · exact .inl List.mem_cons_self
      · exact .inr old

theorem mem_of_mem_ofList {pairs : List (κ × α)} {pair : κ × α} (stored : pair ∈ ofList pairs) :
    pair ∈ pairs := by
  rcases mem_of_mem_insertAll stored with given | none
  · exact given
  · cases none

theorem nodup_keys_insertAll {pairs : List (κ × α)} (distinct : (entries.map (·.1)).Nodup) :
    ((insertAll pairs entries).map (·.1)).Nodup := by
  induction pairs generalizing entries with
  | nil => exact distinct
  | cons first others ih => exact ih (nodup_keys_insert distinct)

/-- Pairs with new keys of their own are all kept. -/
theorem insertAll_of_fresh {pairs : List (κ × α)}
    (fresh : ((entries ++ pairs).map (·.1)).Nodup) :
    insertAll pairs entries = entries ++ pairs := by
  induction pairs generalizing entries with
  | nil => exact (List.append_nil entries).symm
  | cons first others ih =>
    have apart : first.1 ∉ entries.map (·.1) := by
      intro old
      rw [List.map_append, List.nodup_append] at fresh
      exact fresh.2.2 _ old _ (List.mem_map_of_mem List.mem_cons_self) rfl
    have stored : insert first.1 first.2 entries = entries ++ [first] :=
      insert_of_indexOf?_eq_none (indexOf?_eq_none_iff.mpr apart)
    have whole : entries ++ [first] ++ others = entries ++ first :: others := by
      rw [List.append_assoc, List.singleton_append]
    rw [insertAll, List.foldl_cons, stored, ← insertAll, ih (whole ▸ fresh), whole]

theorem ofList_concat (pairs : List (κ × α)) (pair : κ × α) :
    ofList (pairs ++ [pair]) = insert pair.1 pair.2 (ofList pairs) := by
  simp [ofList, insertAll]

/-- The keys are in the order in which they first occur. -/
theorem keys_ofList (pairs : List (κ × α)) :
    (ofList pairs).map (·.1) = (pairs.map (·.1)).eraseDups := by
  induction pairs using List.reverseRecOn with
  | nil => rfl
  | append_singleton pairs pair ih =>
    rw [ofList_concat, keys_insert, List.map_append, List.eraseDups_append, ← ih]
    simp only [mem_keys_ofList]
    by_cases old : pair.1 ∈ pairs.map (·.1)
    · simp [old, List.removeAll]
    · simp [old, List.removeAll, List.eraseDups_cons]

theorem find?_ofList (pairs : List (κ × α)) (key : κ) :
    find? key (ofList pairs) = (pairs.reverse.find? (·.1 == key)).map (·.2) := by
  induction pairs using List.reverseRecOn with
  | nil => rfl
  | append_singleton pairs pair ih =>
    rw [ofList_concat, find?_insert, ih, List.reverse_concat]
    by_cases same : pair.1 = key <;> simp [same]

/-- The last pair counts for its key. -/
theorem find?_ofList_of_last {before after : List (κ × α)} (last : key ∉ after.map (·.1)) :
    find? key (ofList (before ++ (key, value) :: after)) = some value := by
  have untouched : after.reverse.find? (·.1 == key) = none := by
    rw [List.find?_eq_none]
    intro pair among same
    apply last
    rw [← eq_of_beq same]
    exact List.mem_map_of_mem (List.mem_reverse.mp among)
  simp [find?_ofList, untouched]

/-- A pair is stored exactly if it is the last one of its key. -/
theorem mem_ofList_iff {pairs : List (κ × α)} {pair : κ × α} :
    pair ∈ ofList pairs ↔ pairs.reverse.find? (·.1 == pair.1) = some pair := by
  have distinct : ((ofList pairs).map (·.1)).Nodup := nodup_keys_insertAll List.nodup_nil
  have stored : pair ∈ ofList pairs ↔ find? pair.1 (ofList pairs) = some pair.2 :=
    ⟨find?_of_mem distinct, mem_of_find?⟩
  rw [stored, find?_ofList, Option.map_eq_some_iff]
  constructor
  · rintro ⟨last, found, value⟩
    have key : last.1 = pair.1 := by simpa using List.find?_some found
    rw [found, Prod.ext key value]
  · intro found
    exact ⟨pair, found, rfl⟩

/-- Nothing is replaced exactly if the keys are distinct. -/
theorem ofList_eq_self_iff {pairs : List (κ × α)} :
    ofList pairs = pairs ↔ (pairs.map (·.1)).Nodup := by
  constructor
  · intro same
    rw [← same]
    exact nodup_keys_insertAll List.nodup_nil
  · intro distinct
    exact insertAll_of_fresh distinct

end ClientGen.Ordered

import Mathlib.Data.List.Forall2

/-!
# Lists in parallel

A list that is mapped by a function which may fail is in parallel to its results, and every member of
one of two parallel lists has its counterpart in the other one.
-/

namespace ClientGen

variable {α β : Type} {relates : α → β → Prop} {items : List α} {results : List β}

theorem mapM_eq_some_iff_forall₂ {f : α → Option β} :
    items.mapM f = some results ↔
      List.Forall₂ (fun item result => f item = some result) items results := by
  induction items generalizing results with
  | nil =>
    rw [List.mapM_nil, List.forall₂_nil_left_iff]
    constructor
    · intro same
      exact (Option.some.inj same).symm
    · rintro rfl
      rfl
  | cons item items ih =>
    simp only [List.mapM_cons, Option.bind_eq_bind, Option.bind_eq_some_iff,
      List.forall₂_cons_left_iff, ih]
    constructor
    · rintro ⟨first, found, others, parallel, same⟩
      exact ⟨first, others, found, parallel, (Option.some.inj same).symm⟩
    · rintro ⟨first, others, found, parallel, rfl⟩
      exact ⟨first, found, others, parallel, rfl⟩

/-- A function that succeeds wherever another one does, with the same result. -/
theorem mapM_mono {f g : α → Option β}
    (keeps : ∀ item result, f item = some result → g item = some result)
    (mapped : items.mapM f = some results) : items.mapM g = some results := by
  rw [mapM_eq_some_iff_forall₂] at mapped ⊢
  exact mapped.imp keeps

theorem mapM_toList {f : α → Option β} {item : Option α} {result : Option β}
    (mapped : item.mapM f = some result) : item.toList.mapM f = some result.toList := by
  cases item with
  | none =>
    cases mapped
    rfl
  | some item =>
    rcases Option.map_eq_some_iff.mp mapped with ⟨found, isFound, rfl⟩
    rw [mapM_eq_some_iff_forall₂]
    exact .cons isFound .nil

theorem isSome_eq_of_mapM {f : α → Option β} {item : Option α} {result : Option β}
    (mapped : item.mapM f = some result) : item.isSome = result.isSome := by
  cases item with
  | none =>
    cases mapped
    rfl
  | some item =>
    rcases Option.map_eq_some_iff.mp mapped with ⟨found, -, rfl⟩
    rfl

theorem isEmpty_eq_of_forall₂ (parallel : List.Forall₂ relates items results) :
    items.isEmpty = results.isEmpty := by
  cases parallel <;> rfl

theorem exists_of_mem_left (parallel : List.Forall₂ relates items results) {item : α}
    (among : item ∈ items) : ∃ result ∈ results, relates item result := by
  induction parallel with
  | nil => cases among
  | cons related _ ih =>
    rcases List.mem_cons.mp among with rfl | later
    · exact ⟨_, List.mem_cons_self, related⟩
    · rcases ih later with ⟨result, isLater, found⟩
      exact ⟨result, List.mem_cons_of_mem _ isLater, found⟩

theorem exists_of_mem_right (parallel : List.Forall₂ relates items results) {result : β}
    (among : result ∈ results) : ∃ item ∈ items, relates item result :=
  exists_of_mem_left parallel.flip among

end ClientGen

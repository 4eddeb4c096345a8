import ClientGen.Text.Blank
import Mathlib.Data.List.Basic

/-!
# Blanks between words

A text is taken apart into words: none of them is empty, and none holds a blank. So the only blanks
that are left in a collapsed text are the spaces that were put between the words.
-/

namespace ClientGen.Text

variable {separator : Char → Bool} {cs field : List Char} {text : String} {c : Char}

/-- Whether some characters are a field, of which there is one at least. -/
def IsField (separator : Char → Bool) (field : List Char) : Prop :=
  field ≠ [] ∧ ∀ c ∈ field, separator c = false

theorem isField_of_mem_fieldsBy (among : field ∈ fieldsBy separator cs) :
    IsField separator field := by
  -- what is carried to the front: the field that is not finished yet, and those that are
  have carried : ∀ state : List Char × List (List Char), List.foldr (fun c state =>
        if separator c then ([], if state.1.isEmpty then state.2 else state.1 :: state.2)
        else (c :: state.1, state.2)) ([], []) cs = state →
      (∀ c ∈ state.1, separator c = false) ∧ ∀ field ∈ state.2, IsField separator field := by
    clear among
    induction cs with
    | nil => simp
    | cons c cs ih =>
      rintro _ rfl
      obtain ⟨inside, finished⟩ := ih _ rfl
      rw [List.foldr_cons]
      generalize List.foldr _ ([], []) cs = state at inside finished ⊢
      by_cases separates : separator c = true
      · rw [if_pos separates]
        refine ⟨by simp, ?_⟩
        by_cases none : state.1.isEmpty = true
        · simpa only [none, if_true] using finished
        · simp only [none]
          exact List.forall_mem_cons.mpr ⟨⟨by simpa using none, inside⟩, finished⟩
      · rw [if_neg separates]
        exact ⟨List.forall_mem_cons.mpr ⟨by simpa using separates, inside⟩, finished⟩
  rw [fieldsBy] at among
  split at among
  next current done whole =>
  obtain ⟨inside, finished⟩ := carried _ whole
  split at among
  · exact finished field among
  · next given =>
    rcases List.mem_cons.mp among with rfl | earlier
    · exact ⟨by simpa using given, inside⟩
    · exact finished field earlier

theorem mem_intercalate {parts : List (List Char)} (among : c ∈ [' '].intercalate parts) :
    c = ' ' ∨ ∃ part ∈ parts, c ∈ part := by
  induction parts with
  | nil => simp at among
  | cons part parts ih =>
    cases parts with
    | nil => exact Or.inr ⟨part, List.mem_singleton_self part, by simpa using among⟩
    | cons next parts =>
      rw [List.intercalate_cons_cons, List.mem_append, List.mem_append] at among
      rcases among with (first | space) | later
      · exact Or.inr ⟨part, List.mem_cons_self, first⟩
      · exact Or.inl (List.mem_singleton.mp space)
      · rcases ih later with isSpace | ⟨other, isPart, inside⟩
        · exact Or.inl isSpace
        · exact Or.inr ⟨other, List.mem_cons_of_mem part isPart, inside⟩

/-- The only blanks of a collapsed text are spaces. -/
theorem eq_space_of_mem_collapse (among : c ∈ (collapse text).toList) (blank : isBlank c = true) :
    c = ' ' := by
  rw [collapse, String.toList_intercalate] at among
  rcases mem_intercalate among with isSpace | ⟨part, isPart, inside⟩
  · exact isSpace
  · simp only [List.map_map, List.mem_map, Function.comp_apply, String.toList_ofList] at isPart
    obtain ⟨field, isField, rfl⟩ := isPart
    rw [(isField_of_mem_fieldsBy isField).2 c inside] at blank
    exact absurd blank Bool.false_ne_true

end ClientGen.Text

import ClientGen.Text.Segment
import Mathlib.Data.List.TakeWhile

/-!
# Cutting texts

Where a text is known to be put together from parts without some mark, cutting it at the mark gives
these parts back. Every text is a segment, or a segment in front of a mark and of another text, and
what is said of all segments follows this division. Replacing a pattern changes nothing in parts in
which its first character does not occur.
-/

namespace ClientGen.Text

variable {mark : Char} {cs front rest : List Char}

/-- What is taken from the front ends where the first other character stands. -/
theorem takeWhile_append_of_head? {test : Char → Bool} (inside : ∀ c ∈ front, test c = true)
    (ends : ∀ c ∈ rest.head?, test c = false) : (front ++ rest).takeWhile test = front := by
  rw [List.takeWhile_append_of_pos inside]
  cases rest with
  | nil => exact List.append_nil front
  | cons c rest => rw [List.takeWhile_cons_of_neg (by simp [ends c rfl]), List.append_nil]

/-! ### The last occurrence of a mark -/

theorem bne_of_notMem (fresh : mark ∉ cs) : ∀ c ∈ cs, (c != mark) = true := by
  intro c among
  rw [bne_iff_ne]
  rintro rfl
  exact fresh among

theorem bne_of_mem_reverse (fresh : mark ∉ cs) : ∀ c ∈ cs.reverse, (c != mark) = true :=
  fun c among => bne_of_notMem fresh c (List.mem_reverse.mp among)

theorem afterLast_of_notMem (fresh : mark ∉ cs) : afterLast mark cs = cs := by
  rw [afterLast, List.takeWhile_eq_self_iff.mpr (bne_of_mem_reverse fresh), List.reverse_reverse]

theorem afterLast_append_cons (fresh : mark ∉ rest) :
    afterLast mark (front ++ mark :: rest) = rest := by
  rw [afterLast, List.reverse_append, List.reverse_cons, List.append_assoc,
    List.takeWhile_append_of_pos (bne_of_mem_reverse fresh)]
  simp

/-! ### Segments -/

theorem splitAt_cons (c : Char) (cs : List Char) :
    splitAt mark (c :: cs) =
      if c = mark then [] :: splitAt mark cs
      else (splitAt mark cs).head?.elim [[c]] fun part =>
        (c :: part) :: (splitAt mark cs).tail := by
  by_cases isMark : c = mark
  · simp [splitAt, isMark]
  · simp only [splitAt, List.foldr_cons, beq_iff_eq, isMark, if_false]
    split
    · next none => simp [none]
    · next part others some => simp [some]

theorem splitAt_of_notMem (fresh : mark ∉ cs) : splitAt mark cs = [cs] := by
  induction cs with
  | nil => rfl
  | cons c cs ih =>
    rw [List.mem_cons, not_or] at fresh
    rw [splitAt_cons, if_neg (Ne.symm fresh.1), ih fresh.2]
    rfl

theorem splitAt_append_cons (fresh : mark ∉ front) :
    splitAt mark (front ++ mark :: rest) = front :: splitAt mark rest := by
  induction front with
  | nil => rw [List.nil_append, splitAt_cons, if_pos rfl]
  | cons c front ih =>
    rw [List.mem_cons, not_or] at fresh
    rw [List.cons_append, splitAt_cons, if_neg (Ne.symm fresh.1), ih fresh.2]
    rfl

/-- A text is a segment, or a segment in front of a mark and of another text. -/
theorem segments_induction {motive : List Char → Prop} (mark : Char)
    (last : ∀ segment, mark ∉ segment → motive segment)
    (front : ∀ segment rest, mark ∉ segment → motive rest → motive (segment ++ mark :: rest))
    (cs : List Char) : motive cs := by
  by_cases among : mark ∈ cs
  · rcases List.eq_append_cons_of_mem among with ⟨segment, rest, whole, fresh⟩
    have shorter : rest.length < cs.length := by
      rw [whole, List.length_append, List.length_cons]
      omega
    rw [whole]
    exact front segment rest fresh (segments_induction mark last front rest)
  · exact last cs among
termination_by cs.length

theorem beforeFirst_of_notMem (fresh : mark ∉ cs) : beforeFirst mark cs = cs := by
  rw [beforeFirst, List.takeWhile_eq_self_iff]
  exact bne_of_notMem fresh

theorem beforeFirst_append_cons (fresh : mark ∉ front) :
    beforeFirst mark (front ++ mark :: rest) = front := by
  rw [beforeFirst, List.takeWhile_append_of_pos (bne_of_notMem fresh),
    List.takeWhile_cons_of_neg (by simp), List.append_nil]

theorem head?_splitAt (cs : List Char) :
    (splitAt mark cs).head? = some (beforeFirst mark cs) := by
  induction cs using segments_induction mark with
  | last segment fresh => rw [splitAt_of_notMem fresh, beforeFirst_of_notMem fresh, List.head?_cons]
  | front segment rest fresh =>
    rw [splitAt_append_cons fresh, beforeFirst_append_cons fresh, List.head?_cons]

/-! ### Replacing a pattern -/

variable {c : Char} {pattern replacement : List Char}

theorem replaceFrom_length_append (skipped behind : List Char) :
    replaceFrom pattern replacement skipped.length (skipped ++ behind) =
      replaceAll pattern replacement behind := by
  induction skipped with
  | nil => rfl
  | cons c skipped ih => exact ih

theorem replaceAll_append_of_notMem (fresh : c ∉ front) (behind : List Char) :
    replaceAll (c :: pattern) replacement (front ++ behind) =
      front ++ replaceAll (c :: pattern) replacement behind := by
  induction front with
  | nil => rfl
  | cons d front ih =>
    rw [List.mem_cons, not_or] at fresh
    have other : ¬(c :: pattern).isPrefixOf (d :: (front ++ behind)) = true := by
      simp [List.isPrefixOf, fresh.1]
    rw [List.cons_append, replaceAll, replaceFrom, if_neg other]
    exact congrArg _ (ih fresh.2)

theorem replaceAll_pattern_append (behind : List Char) :
    replaceAll (c :: pattern) replacement (c :: pattern ++ behind) =
      replacement ++ replaceAll (c :: pattern) replacement behind := by
  have occurs : (c :: pattern).isPrefixOf (c :: (pattern ++ behind)) = true := by
    rw [List.isPrefixOf_iff_prefix]
    exact List.prefix_append _ _
  rw [List.cons_append, replaceAll, replaceFrom, if_pos occurs, List.length_cons,
    Nat.add_sub_cancel, replaceFrom_length_append]

/-- What is replaced in each part, whatever stands behind it, is replaced in the whole. -/
theorem replaceAll_flatMap {β : Type} {parts : List β} {written replaced : β → List Char}
    (each : ∀ part ∈ parts, ∀ behind, replaceAll pattern replacement (written part ++ behind) =
      replaced part ++ replaceAll pattern replacement behind) :
    replaceAll pattern replacement (parts.flatMap written) = parts.flatMap replaced := by
  induction parts with
  | nil => rfl
  | cons part parts ih =>
    rw [List.forall_mem_cons] at each
    rw [List.flatMap_cons, List.flatMap_cons, each.1, ih each.2]

end ClientGen.Text

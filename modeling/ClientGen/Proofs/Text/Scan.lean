import ClientGen.Text.Scan

/-!
# Scanning texts part by part

What is found in a text that is put together from parts is told from the parts: a part without the
mark that everything recognised begins with is passed over, and one that is recognised as a whole is
found.
-/

namespace ClientGen.Text

variable {α : Type} {recognise : List Char → Option (α × Nat)} {value : α}
  {part : List Char} {mark : Char}

/-- Dividing goes on behind what is passed over. -/
theorem piecesFrom_length_append (skipped behind : List Char) :
    piecesFrom recognise skipped.length (skipped ++ behind) = pieces recognise behind := by
  induction skipped with
  | nil => rfl
  | cons c skipped ih => exact ih

theorem pieces_append_of_recognised (behind : List Char) (given : part ≠ [])
    (found : recognise (part ++ behind) = some (value, part.length)) :
    pieces recognise (part ++ behind) = .found value :: pieces recognise behind := by
  cases part with
  | nil => exact (given rfl).elim
  | cons c part =>
    rw [List.cons_append, List.length_cons] at found
    rw [List.cons_append, pieces, piecesFrom, found]
    simp only [Nat.add_sub_cancel]
    rw [piecesFrom_length_append]

theorem pieces_append_of_notMem (behind : List Char)
    (begins : ∀ c, c ≠ mark → ∀ cs, recognise (c :: cs) = none) (fresh : mark ∉ part) :
    pieces recognise (part ++ behind) = part.map .char ++ pieces recognise behind := by
  induction part with
  | nil => rfl
  | cons c part ih =>
    rw [List.mem_cons, not_or] at fresh
    rw [List.cons_append, pieces, piecesFrom, begins c (Ne.symm fresh.1)]
    exact congrArg _ (ih fresh.2)

theorem spell_map_char_append (write : α → List Char) (pieces : List (Piece α)) :
    spell write (part.map .char ++ pieces) = part ++ spell write pieces := by
  induction part with
  | nil => rfl
  | cons c part ih => exact congrArg (c :: ·) ih

theorem matches?_map_char_append (pieces : List (Piece α)) :
    matches? (part.map .char ++ pieces) = matches? pieces := by
  induction part with
  | nil => rfl
  | cons c part ih => exact ih

end ClientGen.Text

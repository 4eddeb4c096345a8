import ClientGen.Proofs.Route.Template

/-!
# Simplifying a route twice

Any text is divided into placeholders as servers write them and the characters between, however its
braces stand. A brace that begins no placeholder begins none afterwards either: what may follow it,
up to the first closing brace or question mark, is not changed by bringing later placeholders into
their plain form, as neither mark stands inside of a placeholder. So the text that comes of it has
the same placeholders at the same places, all of them in their plain form, and nothing is left to
do.
-/

namespace ClientGen.Route

variable {cs stars name rest : List Char} {placeholder : Placeholder} {length : Nat}

/-! ### What follows a brace -/

/-- Whether some characters begin with exactly these stars and behind them exactly this name. -/
structure IsFront (stars name rest : List Char) : Prop where
  allStars : ∀ c ∈ stars, (c == '*') = true
  words : ∀ c ∈ name, Text.isWord c = true
  noStar : ∀ c ∈ (name ++ rest).head?, (c == '*') = false
  noWord : ∀ c ∈ rest.head?, Text.isWord c = false

theorem eq_false_of_mem_head?_dropWhile (test : Char → Bool) (cs : List Char) :
    ∀ c ∈ (cs.dropWhile test).head?, test c = false := by
  intro c isHead
  have stopped := List.head?_dropWhile_not test cs
  rw [Option.mem_def.mp isHead] at stopped
  simpa using stopped

theorem exists_front (cs : List Char) :
    ∃ stars name rest, IsFront stars name rest ∧ cs = stars ++ (name ++ rest) := by
  have split (test : Char → Bool) (cs : List Char) :
      cs.takeWhile test ++ cs.dropWhile test = cs := List.takeWhile_append_dropWhile
  refine ⟨cs.takeWhile (· == '*'), (cs.dropWhile (· == '*')).takeWhile Text.isWord,
    (cs.dropWhile (· == '*')).dropWhile Text.isWord, ⟨?_, ?_, ?_, ?_⟩, ?_⟩
  · intro c among
    exact List.mem_takeWhile_imp (p := (· == '*')) among
  · intro c among
    exact List.mem_takeWhile_imp among
  · rw [split]
    exact eq_false_of_mem_head?_dropWhile _ _
  · exact eq_false_of_mem_head?_dropWhile _ _
  · rw [split, split]

/-- The end of a placeholder behind its name, if it has one there. -/
def ending? (rest : List Char) : Option (Bool × Nat) :=
  closing? (rest.drop (constraints rest).length)

theorem constrained?_of_front (front : IsFront stars name rest) :
    constrained? ('\x7b' :: (stars ++ (name ++ rest))) =
      if name = [] then none
      else (ending? rest).map fun (isOptional, closing) =>
        (⟨String.ofList name, isOptional⟩,
          1 + stars.length + name.length + (constraints rest).length + closing) := by
  rw [constrained?]
  dsimp only
  rw [Text.takeWhile_append_of_head? front.allStars front.noStar, List.drop_left,
    Text.takeWhile_append_of_head? front.words front.noWord, List.drop_left, ending?]
  cases name with
  | nil => rfl
  | cons c name => cases closing? (rest.drop (constraints rest).length) <;> rfl

theorem isSome_constrained?_of_front (front : IsFront stars name rest) :
    (constrained? ('\x7b' :: (stars ++ (name ++ rest)))).isSome =
      (!name.isEmpty && (ending? rest).isSome) := by
  rw [constrained?_of_front front]
  cases name with
  | nil => rfl
  | cons c name => simp

/-! ### What is recognised -/

theorem constraints_cases (cs : List Char) :
    constraints cs = [] ∨
      ∃ limits, constraints cs = ':' :: limits ∧ limits.all isConstraintChar = true := by
  unfold constraints
  split
  · refine .inr ⟨_, rfl, ?_⟩
    rw [List.all_eq_true]
    intro c among
    exact List.mem_takeWhile_imp among
  · exact .inl rfl

theorem constraints_append_drop (cs : List Char) :
    constraints cs ++ cs.drop (constraints cs).length = cs := by
  refine List.prefix_iff_eq_append.mp ?_
  unfold constraints
  split
  · exact List.cons_prefix_cons.mpr ⟨rfl, List.takeWhile_prefix _⟩
  · exact List.nil_prefix

/-- What is recognised is a placeholder as servers write it. -/
theorem exists_slot_of_constrained? (found : constrained? cs = some (placeholder, length)) :
    ∃ (slot : Slot) (behind : List Char), slot.placeholder = placeholder ∧
      slot.text.length = length ∧ cs = slot.text ++ behind := by
  have begins : ∃ others, cs = '\x7b' :: others := by
    unfold constrained? at found
    split at found
    · exact ⟨_, rfl⟩
    · cases found
  rcases begins with ⟨cs, rfl⟩
  rcases exists_front cs with ⟨stars, name, rest, front, rfl⟩
  rw [constrained?_of_front front] at found
  split at found
  · cases found
  · next named =>
    simp only [Option.map_eq_some_iff, Prod.exists, Prod.mk.injEq] at found
    rcases found with ⟨isOptional, closing, closed, rfl, rfl⟩
    rcases eq_ending_of_closing? (String.ofList name) closed with ⟨sameLength, atEnd⟩
    have limited : ∃ limits : List String,
        (∀ limit ∈ limits, limit.toList.all isConstraintChar = true) ∧
          limits.flatMap (fun limit => ':' :: limit.toList) = constraints rest := by
      rcases constraints_cases rest with none | ⟨limits, some, lawful⟩
      · exact ⟨[], by simp, by simp [none]⟩
      · refine ⟨[String.ofList limits], ?_, ?_⟩
        · simpa using lawful
        · simp [some]
    rcases limited with ⟨limits, lawful, spelled⟩
    let slot : Slot :=
      { stars := stars.length
        placeholder := ⟨String.ofList name, isOptional⟩
        constraints := limits
        proper := ⟨by simpa using named, by simpa using front.words⟩
        lawful }
    have sameStars : stars = List.replicate stars.length '*' := by
      rw [List.eq_replicate_length]
      intro c among
      exact eq_of_beq (front.allStars c among)
    have text : slot.text = '\x7b' :: (stars ++ (name ++ (constraints rest ++
        slot.placeholder.ending))) := by
      rw [Slot.text, ← sameStars, String.toList_ofList, Slot.limits, spelled]
    refine ⟨slot, (rest.drop (constraints rest).length).drop closing, rfl, ?_, ?_⟩
    · rw [text, sameLength]
      simp only [List.length_cons, List.length_append, slot]
      omega
    · have whole := constraints_append_drop rest
      rw [atEnd] at whole
      rw [text, List.cons_append, List.append_assoc, List.append_assoc, List.append_assoc, whole]

/-- Every text is empty, begins with a character that begins no placeholder, or begins with a
placeholder as servers write it. -/
theorem slots_induction {motive : List Char → Prop} (nil : motive [])
    (char : ∀ c cs, constrained? (c :: cs) = none → motive cs → motive (c :: cs))
    (slot : ∀ (slot : Slot) behind, motive behind → motive (slot.text ++ behind))
    (cs : List Char) : motive cs := by
  match cs with
  | [] => exact nil
  | c :: cs =>
    cases found : constrained? (c :: cs) with
    | none => exact char c cs found (slots_induction nil char slot cs)
    | some recognised =>
      rcases exists_slot_of_constrained? found with ⟨written, behind, -, -, whole⟩
      have shorter : behind.length < (c :: cs).length := by
        rw [whole, List.length_append, Slot.text, List.length_cons]
        omega
      rw [whole]
      exact slot written behind (slots_induction nil char slot behind)
termination_by cs.length
decreasing_by
  · exact Nat.lt_succ_self cs.length
  · exact shorter

/-! ### Simplifying what follows a brace -/

theorem simplify_cons_of_none {c : Char} (noSlot : constrained? (c :: cs) = none) :
    simplify (c :: cs) = c :: simplify cs := by
  rw [simplify, Text.pieces, Text.piecesFrom, noSlot]
  rfl

theorem head?_simplify (cs : List Char) : (simplify cs).head? = cs.head? := by
  induction cs using slots_induction with
  | nil => rfl
  | char c cs noSlot => rw [simplify_cons_of_none noSlot, List.head?_cons, List.head?_cons]
  | slot slot behind =>
    rw [simplify_slot_append]
    rfl

/-- Whether a placeholder ends here does not depend on what stands in later ones. -/
theorem isSome_closing?_simplify (cs : List Char) :
    (closing? (simplify cs)).isSome = (closing? cs).isSome := by
  have keeps (c : Char) (other : c ≠ '\x7b') (cs : List Char) :
      simplify (c :: cs) = c :: simplify cs :=
    simplify_cons_of_none (constrained?_of_ne c other cs)
  have sameHead := head?_simplify cs
  match cs with
  | [] => rfl
  | c :: others =>
    by_cases isMark : c = '?'
    · subst isMark
      have nextHead := head?_simplify others
      rw [keeps _ (by decide)]
      cases others with
      | nil => rfl
      | cons d others =>
        rcases List.head?_eq_some_iff.mp nextHead with ⟨behind, whole⟩
        rw [whole]
        by_cases closes : d = '\x7d'
        · subst closes
          rfl
        · simp [closing?, closes]
    · rcases List.head?_eq_some_iff.mp sameHead with ⟨behind, whole⟩
      rw [whole]
      by_cases closes : c = '\x7d'
      · subst closes
        rfl
      · simp [closing?, closes, isMark]

/-- What ends the constraints of a placeholder is not changed by simplifying them: there is nothing
in a placeholder that ends them before it does. -/
theorem isSome_closing?_dropWhile_simplify (cs : List Char) :
    (closing? ((simplify cs).dropWhile isConstraintChar)).isSome =
      (closing? (cs.dropWhile isConstraintChar)).isSome := by
  have brace : isConstraintChar '\x7b' = true := by decide
  have star : isConstraintChar '*' = true := by decide
  have word {c : Char} (isWord : Text.isWord c = true) : isConstraintChar c = true := by
    have notBrace : Text.isWord '\x7d' = false := by decide
    have notMark : Text.isWord '?' = false := by decide
    rw [isConstraintChar, Bool.and_eq_true, bne_iff_ne, bne_iff_ne]
    constructor
    · rintro rfl
      exact Bool.false_ne_true (notBrace.symm.trans isWord)
    · rintro rfl
      exact Bool.false_ne_true (notMark.symm.trans isWord)
  induction cs using slots_induction with
  | nil => rfl
  | char c cs noSlot ih =>
    rw [simplify_cons_of_none noSlot]
    by_cases inside : isConstraintChar c = true
    · rw [List.dropWhile_cons_of_pos inside, List.dropWhile_cons_of_pos inside, ih]
    · have whole := isSome_closing?_simplify (c :: cs)
      rw [simplify_cons_of_none noSlot] at whole
      rw [List.dropWhile_cons_of_neg inside, List.dropWhile_cons_of_neg inside, whole]
  | slot slot behind =>
    -- Both texts go on to the end of this placeholder, which is the same.
    have stops (front : List Char) (inside : ∀ c ∈ front, isConstraintChar c = true)
        (behind : List Char) :
        (closing? ((front ++ (slot.placeholder.ending ++ behind)).dropWhile
          isConstraintChar)).isSome = true := by
      rcases slot.placeholder.ending_cases with ⟨c, others, whole, -⟩
      have ends := not_isConstraintChar_ending slot.placeholder behind
      rw [List.dropWhile_append_of_pos inside]
      rw [whole, List.cons_append, List.head?_cons] at ends
      rw [whole, List.cons_append, List.dropWhile_cons_of_neg (by simp [ends c rfl]),
        ← List.cons_append, ← whole, closing?_ending]
      rfl
    have named : ∀ c ∈ slot.placeholder.name.toList, isConstraintChar c = true :=
      fun c among => word (slot.proper.words c among)
    have starred : ∀ c ∈ List.replicate slot.stars '*', isConstraintChar c = true := by
      intro c among
      rw [(List.mem_replicate.mp among).2, star]
    have limited := slot.isConstraintChar_of_mem_limits
    have written := stops ('\x7b' :: (List.replicate slot.stars '*' ++
      (slot.placeholder.name.toList ++ slot.limits))) (by
        simp only [List.forall_mem_cons, List.forall_mem_append]
        exact ⟨brace, starred, named, limited⟩) behind
    have plain := stops ('\x7b' :: slot.placeholder.name.toList) (by
      rw [List.forall_mem_cons]
      exact ⟨brace, named⟩) (simplify behind)
    rw [simplify_slot_append, Placeholder.plain_eq, Slot.text]
    simp only [List.cons_append, List.append_assoc] at written plain ⊢
    rw [written, plain]

theorem isSome_ending?_simplify (rest : List Char) :
    (ending? (simplify rest)).isSome = (ending? rest).isSome := by
  have limited (cs : List Char) :
      ending? (':' :: cs) = closing? (cs.dropWhile isConstraintChar) := by
    have skipped : cs.drop (cs.takeWhile isConstraintChar).length =
        cs.dropWhile isConstraintChar :=
      (List.append_right_inj _).mp ((List.prefix_iff_eq_append.mp
        (List.takeWhile_prefix _)).trans List.takeWhile_append_dropWhile.symm)
    rw [ending?, constraints, List.length_cons, List.drop_succ_cons, skipped]
  have unlimited (cs : List Char) (noColon : cs.head? ≠ some ':') :
      ending? cs = closing? cs := by
    have none : constraints cs = [] := by
      unfold constraints
      split
      · exact (noColon rfl).elim
      · rfl
    rw [ending?, none, List.length_nil, List.drop_zero]
  by_cases colon : rest.head? = some ':'
  · rcases List.head?_eq_some_iff.mp colon with ⟨behind, rfl⟩
    rw [simplify_cons_of_none (constrained?_of_ne ':' (by decide) behind), limited, limited,
      isSome_closing?_dropWhile_simplify]
  · have stillNone : (simplify rest).head? ≠ some ':' := by
      rw [head?_simplify]
      exact colon
    rw [unlimited _ colon, unlimited _ stillNone, isSome_closing?_simplify]

/-! ### Simplifying twice -/

/-- A character that begins no placeholder begins none in the simplified text. -/
theorem constrained?_cons_simplify {c : Char} (noSlot : constrained? (c :: cs) = none) :
    constrained? (c :: simplify cs) = none := by
  by_cases brace : c = '\x7b'
  · subst brace
    rcases exists_front cs with ⟨stars, name, rest, front, rfl⟩
    have noBrace : '\x7b' ∉ stars ++ name := by
      rw [List.mem_append, not_or]
      constructor
      · intro among
        exact absurd (front.allStars _ among) (by decide)
      · intro among
        exact absurd (front.words _ among) (by decide)
    have sameFront : simplify (stars ++ (name ++ rest)) = stars ++ (name ++ simplify rest) := by
      rw [← List.append_assoc, simplify_append_of_fresh noBrace, List.append_assoc]
    have stillFront : IsFront stars name (simplify rest) :=
      { front with
        noStar := by
          have noStar := front.noStar
          rw [List.head?_append] at noStar ⊢
          rw [head?_simplify]
          exact noStar
        noWord := by
          rw [head?_simplify]
          exact front.noWord }
    have unrecognised := isSome_constrained?_of_front front
    rw [← isSome_ending?_simplify, ← isSome_constrained?_of_front stillFront, noSlot] at unrecognised
    rw [sameFront]
    exact Option.not_isSome_iff_eq_none.mp (by rw [← unrecognised]; simp)
  · exact constrained?_of_ne c brace _

/-- The plain form of a placeholder is one of those that servers write. -/
theorem constrained?_plain_append (proper : placeholder.IsProper) (behind : List Char) :
    constrained? (placeholder.plain ++ behind) = some (placeholder, placeholder.plain.length) :=
  constrained?_text_append
    { stars := 0, placeholder, constraints := [], proper, lawful := by simp } behind

/-- In the simplified text there are the same placeholders, between the same characters. -/
theorem pieces_simplify (cs : List Char) :
    Text.pieces constrained? (simplify cs) = Text.pieces constrained? cs := by
  induction cs using slots_induction with
  | nil => rfl
  | char c cs noSlot ih =>
    rw [simplify_cons_of_none noSlot, Text.pieces, Text.pieces, Text.piecesFrom, Text.piecesFrom,
      noSlot, constrained?_cons_simplify noSlot]
    exact congrArg _ ih
  | slot slot behind ih =>
    have given : slot.text ≠ [] := List.cons_ne_nil _ _
    have givenPlain : slot.placeholder.plain ≠ [] := List.cons_ne_nil _ _
    rw [simplify_slot_append,
      Text.pieces_append_of_recognised _ given (constrained?_text_append slot behind),
      Text.pieces_append_of_recognised _ givenPlain (constrained?_plain_append slot.proper _), ih]

/-- Inside of the plain form of a placeholder no other one begins. -/
theorem constrained?_of_mem_plain {front behind : List Char} {c : Char}
    (proper : placeholder.IsProper) (whole : placeholder.plain = front ++ c :: behind)
    (inside : front ≠ []) (others : List Char) : constrained? (c :: others) = none := by
  refine constrained?_of_ne c ?_ others
  cases front with
  | nil => exact (inside rfl).elim
  | cons brace front =>
    rw [Placeholder.plain_eq, List.cons_append, List.cons.injEq] at whole
    have among : c ∈ placeholder.name.toList ++ placeholder.ending := by simp [whole.2]
    rintro rfl
    rcases List.mem_append.mp among with inName | atEnd
    · exact absurd (proper.words _ inName) (by decide)
    · revert atEnd
      unfold Placeholder.ending
      split <;> decide

/-- Wherever a placeholder is recognised in the simplified text, it stands there in its plain
form. -/
theorem exists_eq_plain_append_of_constrained? {before behind : List Char}
    (whole : simplify cs = before ++ behind)
    (found : constrained? behind = some (placeholder, length)) :
    placeholder.IsProper ∧ length = placeholder.plain.length ∧
      ∃ others, behind = placeholder.plain ++ others := by
  induction cs using slots_induction generalizing before with
  | nil =>
    have empty : before ++ behind = [] := whole.symm
    rw [(List.append_eq_nil_iff.mp empty).2] at found
    cases found
  | char c cs noSlot ih =>
    rw [simplify_cons_of_none noSlot] at whole
    cases before with
    | nil =>
      rw [List.nil_append] at whole
      rw [← whole, constrained?_cons_simplify noSlot] at found
      cases found
    | cons d before =>
      rw [List.cons_append, List.cons.injEq] at whole
      exact ih whole.2
  | slot slot others ih =>
    rw [simplify_slot_append] at whole
    rcases List.append_eq_append_iff.mp whole with ⟨between, -, rest⟩ | ⟨between, split, rest⟩
    · exact ih rest
    · cases between with
      | nil => exact @ih [] rest.symm
      | cons c between =>
        by_cases inside : before = []
        · rw [inside, List.nil_append] at split
          rw [← split] at rest
          rw [rest, constrained?_plain_append slot.proper, Option.some.injEq,
            Prod.mk.injEq] at found
          rcases found with ⟨rfl, rfl⟩
          exact ⟨slot.proper, rfl, _, rest⟩
        · rw [rest, List.cons_append, constrained?_of_mem_plain slot.proper split inside] at found
          cases found

/-- Bringing placeholders into their plain form a second time changes nothing, whatever the text is:
in the text that comes of it there are the same placeholders as before, and wherever one is
recognised there, be it inside of another one, it already is a name in braces, or a name and a
question mark in braces. -/
theorem simplify_simplify (cs : List Char) :
    simplify (simplify cs) = simplify cs ∧
      Text.pieces constrained? (simplify cs) = Text.pieces constrained? cs ∧
      ∀ before behind placeholder length, simplify cs = before ++ behind →
        constrained? behind = some (placeholder, length) →
          placeholder.IsProper ∧ length = placeholder.plain.length ∧
            ∃ others, behind = placeholder.plain ++ others := by
  have samePieces := pieces_simplify cs
  refine ⟨?_, samePieces, ?_⟩
  · rw [simplify, samePieces, simplify]
  · intro before behind placeholder length whole found
    exact exists_eq_plain_append_of_constrained? whole found

/-- Braces that are not balanced, a stray mark, and constraints with braces of their own. -/
example :
    simplify "\x7ba\x7b*b:c\x7bd?\x7d\x7d\x7be?:f\x7d".toList =
      "\x7ba\x7bb?\x7d\x7d\x7be?:f\x7d".toList := by
  rfl

end ClientGen.Route

import ClientGen.Proofs.Text.Scan
import ClientGen.Route.Placeholder
import Mathlib.Data.List.TakeWhile

/-!
# Placeholders in the text of a route

A route is divided into placeholders in their plain form and the characters between. Every
occurrence of a placeholder in the text is one of the parts, wherever it stands: a placeholder
begins with a brace and has no other one inside, so what stands before an occurrence neither takes a
part of it nor looks beyond its first character.
-/

namespace ClientGen.Route

/-- The end of the plain form of a placeholder. -/
def Placeholder.ending (placeholder : Placeholder) : List Char :=
  if placeholder.isOptional then ['?', '\x7d'] else ['\x7d']

/-- Whether the name of a placeholder can be recognised. -/
structure Placeholder.IsProper (placeholder : Placeholder) : Prop where
  named : placeholder.name.toList ≠ []
  words : ∀ c ∈ placeholder.name.toList, Text.isWord c = true

variable {placeholder : Placeholder} {cs before behind : List Char} {length : Nat}

theorem Placeholder.plain_eq (placeholder : Placeholder) :
    placeholder.plain = '\x7b' :: (placeholder.name.toList ++ placeholder.ending) :=
  rfl

theorem Placeholder.length_plain (placeholder : Placeholder) :
    placeholder.plain.length =
      1 + placeholder.name.toList.length + placeholder.ending.length := by
  rw [plain_eq, List.length_cons, List.length_append]
  omega

/-! ### One placeholder -/

theorem closing?_ending (placeholder : Placeholder) (behind : List Char) :
    closing? (placeholder.ending ++ behind) =
      some (placeholder.isOptional, placeholder.ending.length) := by
  rcases placeholder with ⟨name, isOptional⟩
  cases isOptional <;> rfl

theorem eq_ending_of_closing? {isOptional : Bool} (name : String)
    (closed : closing? cs = some (isOptional, length)) :
    length = (Placeholder.mk name isOptional).ending.length ∧
      cs = (Placeholder.mk name isOptional).ending ++ cs.drop length := by
  unfold closing? at closed
  split at closed
  · cases closed
    exact ⟨rfl, rfl⟩
  · cases closed
    exact ⟨rfl, rfl⟩
  · cases closed

theorem closing?_append_brace (cs behind : List Char) :
    closing? (cs ++ '\x7b' :: behind) = closing? cs := by
  fun_cases closing? cs with
  | case1 => rfl
  | case2 => rfl
  | case3 cs notPlain notOptional =>
    rw [closing?.eq_3]
    · intro others whole
      cases cs with
      | nil => cases whole
      | cons c cs =>
        cases whole
        exact notPlain cs rfl
    · intro others whole
      match cs with
      | [] => cases whole
      | [c] => cases whole
      | c :: d :: cs =>
        cases whole
        exact notOptional cs rfl

/-- The name at the beginning of some characters. -/
def nameAt (cs : List Char) : List Char :=
  cs.takeWhile Text.isWord

theorem nameAt_append_brace (cs behind : List Char) :
    nameAt (cs ++ '\x7b' :: behind) = nameAt cs := by
  have noWord : Text.isWord '\x7b' = false := by decide
  induction cs with
  | nil => simp [nameAt, noWord]
  | cons c cs ih =>
    rw [nameAt, nameAt] at ih
    rw [nameAt, nameAt, List.cons_append, List.takeWhile_cons, List.takeWhile_cons, ih]

theorem nameAt_name_append (proper : placeholder.IsProper) (behind : List Char) :
    nameAt (placeholder.name.toList ++ (placeholder.ending ++ behind)) =
      placeholder.name.toList := by
  rw [nameAt, List.takeWhile_append_of_pos proper.words]
  rcases placeholder with ⟨name, isOptional⟩
  cases isOptional <;> exact List.append_nil _

theorem nameAt_append_drop (cs : List Char) :
    nameAt cs ++ cs.drop (nameAt cs).length = cs :=
  List.prefix_iff_eq_append.mp (List.takeWhile_prefix Text.isWord)

theorem plain?_brace (cs : List Char) :
    plain? ('\x7b' :: cs) =
      if nameAt cs = [] then none
      else (closing? (cs.drop (nameAt cs).length)).map fun (isOptional, closing) =>
        (⟨String.ofList (nameAt cs), isOptional⟩, 1 + (nameAt cs).length + closing) := by
  rw [plain?, nameAt]
  cases cs.takeWhile Text.isWord with
  | nil => rfl
  | cons c name => cases closing? (cs.drop (c :: name).length) <;> rfl

theorem plain?_plain_append (proper : placeholder.IsProper) (behind : List Char) :
    plain? (placeholder.plain ++ behind) = some (placeholder, placeholder.plain.length) := by
  rw [Placeholder.plain_eq, List.cons_append, List.append_assoc, plain?_brace,
    nameAt_name_append proper, if_neg proper.named, List.drop_left, closing?_ending,
    ← Placeholder.plain_eq, Placeholder.length_plain, String.ofList_toList]
  rfl

/-- What is recognised is a placeholder in its plain form. -/
theorem eq_plain_of_plain? (found : plain? cs = some (placeholder, length)) :
    placeholder.IsProper ∧ length = placeholder.plain.length ∧
      cs = placeholder.plain ++ cs.drop length := by
  have begins : ∃ others, cs = '\x7b' :: others := by
    unfold plain? at found
    split at found
    · exact ⟨_, rfl⟩
    · cases found
  rcases begins with ⟨cs, rfl⟩
  rw [plain?_brace] at found
  split at found
  · cases found
  · next named =>
    simp only [Option.map_eq_some_iff, Prod.exists, Prod.mk.injEq] at found
    rcases found with ⟨isOptional, closing, closed, rfl, rfl⟩
    rcases eq_ending_of_closing? (String.ofList (nameAt cs)) closed with ⟨sameLength, rest⟩
    refine ⟨⟨?_, ?_⟩, ?_, ?_⟩
    · rw [String.toList_ofList]
      exact named
    · rw [String.toList_ofList]
      intro c among
      exact List.mem_takeWhile_imp among
    · rw [Placeholder.length_plain, String.toList_ofList, sameLength]
    · have dropped : cs.drop ((nameAt cs).length + closing) =
          (cs.drop (nameAt cs).length).drop closing := List.drop_drop.symm
      rw [Placeholder.plain_eq, String.toList_ofList, List.cons_append, List.append_assoc,
        Nat.add_assoc, Nat.add_comm 1, List.drop_succ_cons, dropped, ← rest, nameAt_append_drop]

/-- What stands before a brace is recognised without regard to what comes from there on. -/
theorem plain?_append_brace (given : before ≠ []) (behind : List Char) :
    plain? (before ++ '\x7b' :: behind) = plain? before := by
  cases before with
  | nil => exact (given rfl).elim
  | cons c cs =>
    by_cases brace : c = '\x7b'
    · have dropped : (cs ++ '\x7b' :: behind).drop (nameAt cs).length =
          cs.drop (nameAt cs).length ++ '\x7b' :: behind :=
        List.drop_append_of_le_length (List.takeWhile_prefix Text.isWord).length_le
      rw [brace, List.cons_append, plain?_brace, plain?_brace, nameAt_append_brace, dropped,
        closing?_append_brace]
    · simp [plain?, brace]

/-! ### All placeholders -/

theorem length_le_of_plain? (found : plain? cs = some (placeholder, length)) :
    length ≤ cs.length := by
  rcases eq_plain_of_plain? found with ⟨-, sameLength, whole⟩
  rw [whole, List.length_append, ← sameLength]
  exact Nat.le_add_right _ _

theorem pieces_plain_append (proper : placeholder.IsProper) (behind : List Char) :
    Text.pieces plain? (placeholder.plain ++ behind) =
      .found placeholder :: Text.pieces plain? behind :=
  Text.pieces_append_of_recognised behind (List.cons_ne_nil _ _) (plain?_plain_append proper behind)

theorem piecesFrom_append_brace (skip : Nat) (within : skip ≤ before.length)
    (behind : List Char) :
    Text.piecesFrom plain? skip (before ++ '\x7b' :: behind) =
      Text.piecesFrom plain? skip before ++ Text.pieces plain? ('\x7b' :: behind) := by
  induction before generalizing skip with
  | nil =>
    rw [Nat.le_zero.mp within]
    rfl
  | cons c before ih =>
    cases skip with
    | succ skip => exact ih skip (Nat.le_of_succ_le_succ within)
    | zero =>
      rw [List.cons_append, Text.piecesFrom, Text.piecesFrom, ← List.cons_append,
        plain?_append_brace (List.cons_ne_nil c before)]
      split
      · next placeholder length found =>
        have inside := length_le_of_plain? found
        rw [List.length_cons] at inside
        rw [ih (length - 1) (by omega), List.cons_append]
      · rw [ih 0 (Nat.zero_le _), List.cons_append]

/-- A placeholder is found wherever its plain form stands in a text. -/
theorem pieces_append_plain_append (proper : placeholder.IsProper) (before behind : List Char) :
    Text.pieces plain? (before ++ (placeholder.plain ++ behind)) =
      Text.pieces plain? before ++ .found placeholder :: Text.pieces plain? behind := by
  rw [← pieces_plain_append proper, Placeholder.plain_eq, List.cons_append]
  exact piecesFrom_append_brace 0 (Nat.zero_le _) _

theorem spell_found (pieces : List (Text.Piece Placeholder)) :
    Text.spell Placeholder.plain (.found placeholder :: pieces) =
      placeholder.plain ++ Text.spell Placeholder.plain pieces :=
  rfl

theorem spell_char (c : Char) (pieces : List (Text.Piece Placeholder)) :
    Text.spell Placeholder.plain (.char c :: pieces) = c :: Text.spell Placeholder.plain pieces :=
  rfl

/-- The parts of a text make up the text. -/
theorem spell_piecesFrom (skip : Nat) (cs : List Char) :
    Text.spell Placeholder.plain (Text.piecesFrom plain? skip cs) = cs.drop skip := by
  induction cs generalizing skip with
  | nil => cases skip <;> rfl
  | cons c cs ih =>
    cases skip with
    | succ skip => exact ih skip
    | zero =>
      rw [Text.piecesFrom]
      split
      · next placeholder length found =>
        rcases eq_plain_of_plain? found with ⟨-, sameLength, whole⟩
        have given : 0 < length := by
          rw [sameLength, Placeholder.plain_eq]
          exact Nat.succ_pos _
        have behind : cs.drop (length - 1) = (c :: cs).drop length := by
          rw [← List.drop_succ_cons, Nat.sub_add_cancel given]
        rw [spell_found, ih, behind, List.drop_zero]
        exact whole.symm
      · rw [spell_char, ih]
        rfl

theorem isProper_of_mem_piecesFrom {skip : Nat}
    (found : .found placeholder ∈ Text.piecesFrom plain? skip cs) : placeholder.IsProper := by
  induction cs generalizing skip with
  | nil => cases skip <;> cases found
  | cons c cs ih =>
    cases skip with
    | succ skip => exact ih found
    | zero =>
      rw [Text.piecesFrom] at found
      split at found
      · next recognised =>
        rcases List.mem_cons.mp found with same | later
        · cases same
          exact (eq_plain_of_plain? recognised).1
        · exact ih later
      · rcases List.mem_cons.mp found with other | later
        · cases other
        · exact ih later

/-- The placeholders of a route are those whose plain form stands in its text. -/
theorem mem_placeholders_iff {route : String} :
    placeholder ∈ placeholders route ↔ placeholder.IsProper ∧
      ∃ before behind, route.toList = before ++ (placeholder.plain ++ behind) := by
  have mem_iff : placeholder ∈ placeholders route ↔
      .found placeholder ∈ Text.pieces plain? route.toList := by
    rw [placeholders, Text.matches?, List.mem_filterMap]
    constructor
    · rintro ⟨piece, among, isFound⟩
      cases piece with
      | char c => cases isFound
      | found value =>
        cases isFound
        exact among
    · intro found
      exact ⟨_, found, rfl⟩
  rw [mem_iff]
  constructor
  · intro found
    refine ⟨isProper_of_mem_piecesFrom found, ?_⟩
    rcases List.append_of_mem found with ⟨before, behind, pieces⟩
    refine ⟨Text.spell Placeholder.plain before, Text.spell Placeholder.plain behind, ?_⟩
    have spelled := spell_piecesFrom 0 route.toList
    rw [← Text.pieces, pieces, List.drop_zero] at spelled
    rw [← spelled, Text.spell, List.flatMap_append, ← Text.spell, ← Text.spell, spell_found]
  · rintro ⟨proper, before, behind, whole⟩
    rw [whole, pieces_append_plain_append proper]
    exact List.mem_append_right _ List.mem_cons_self

end ClientGen.Route

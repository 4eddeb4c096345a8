import ClientGen.Json.Token
import ClientGen.Json.Write
import ClientGen.Proofs.Text.Digit
import Mathlib.Tactic.IntervalCases

/-!
# Tokens of written scalars

The automaton can stop at any character and go on from there, so the tokens of a text are put
together from those of its parts. Marks, texts in quotes and names end by themselves. A numeral goes
on for as long as it can, so something has to follow it that no numeral contains.
-/

namespace ClientGen.Json

open Data

variable {text rest : List Char} {value : Numeral} {mode : Mode} {c : Char}

/-- The tokens that are completed by some characters, and what the automaton is in the middle of
behind them. -/
def Mode.run : Mode → List Char → List Token × Mode
  | mode, [] => ([], mode)
  | mode, c :: rest =>
    let (tokens, next) := mode.take c
    let (others, last) := next.run rest
    (tokens ++ others, last)

theorem tokensFrom_append (mode : Mode) (text rest : List Char) :
    tokensFrom mode (text ++ rest) = (mode.run text).1 ++ tokensFrom (mode.run text).2 rest := by
  induction text generalizing mode with
  | nil => rfl
  | cons c text ih => simp only [List.cons_append, tokensFrom, Mode.run, ih, List.append_assoc]

theorem tokensFrom_eq_run (mode : Mode) (text : List Char) :
    tokensFrom mode text = (mode.run text).1 ++ (mode.run text).2.finish := by
  simpa [tokensFrom] using tokensFrom_append mode text []

theorem Mode.run_append (mode : Mode) (text rest : List Char) :
    mode.run (text ++ rest) =
      ((mode.run text).1 ++ ((mode.run text).2.run rest).1, ((mode.run text).2.run rest).2) := by
  induction text generalizing mode with
  | nil => rfl
  | cons c text ih => simp only [List.cons_append, Mode.run, ih, List.append_assoc]

/-! ### Numerals -/

/-- Whether a character ends a numeral and stands between tokens. -/
def isEnd (c : Char) : Bool :=
  isSpace c || c == ',' || c == ']' || c == '\x7d'

/-- Whether a text does not go on with a numeral. -/
def Apart (text : List Char) : Prop :=
  ∀ c ∈ text.head?, isEnd c = true

/-- Whether a token carries a flaw. -/
def Token.isFlawed : Token → Bool
  | .quoted value => value.flaw.isSome
  | .flawed _ => true
  | _ => false

theorem take?_eq_none_of_isEnd (ends : isEnd c = true) (numeral : OpenNumeral) :
    numeral.take? c = none ∧ c.isDigit = false := by
  simp only [isEnd, isSpace, Bool.or_eq_true, beq_iff_eq, or_assoc] at ends
  rcases ends with rfl | rfl | rfl | rfl | rfl | rfl | rfl <;> exact ⟨rfl, rfl⟩

theorem tokensFrom_number_of_apart {numeral : OpenNumeral}
    (complete : numeral.part.isComplete = true) (apart : Apart rest) :
    tokensFrom (.number numeral) rest = .numeral numeral.close :: tokensFrom .between rest := by
  cases rest with
  | nil => simp [tokensFrom, Mode.finish, complete]
  | cons c rest =>
    rcases take?_eq_none_of_isEnd (apart c rfl) numeral with ⟨ends, noDigit⟩
    simp [tokensFrom, Mode.take, ends, complete, noDigit]

theorem exists_isFlawed_of_takeBetween (stops : (takeBetween c).2 = .stopped) :
    ∃ token ∈ (takeBetween c).1, token.isFlawed = true := by
  unfold takeBetween at stops ⊢
  repeat' split at stops
  all_goals simp_all [Token.isFlawed]

/-- The automaton only stops at a flaw. -/
theorem exists_isFlawed_of_take (going : mode ≠ .stopped) (stops : (mode.take c).2 = .stopped) :
    ∃ token ∈ (mode.take c).1, token.isFlawed = true := by
  cases mode with
  | stopped => exact absurd rfl going
  | between => exact exists_isFlawed_of_takeBetween stops
  | literal name token =>
    cases name with
    | nil =>
      rcases exists_isFlawed_of_takeBetween stops with ⟨flawed, among, isFlawed⟩
      exact ⟨flawed, List.mem_cons_of_mem _ among, isFlawed⟩
    | cons expected name =>
      unfold Mode.take at stops ⊢
      repeat' split at stops
      all_goals simp_all [Token.isFlawed]
  | number numeral =>
    cases taken : numeral.take? c with
    | some longer => simp [Mode.take, taken] at stops
    | none =>
      simp only [Mode.take, taken] at stops ⊢
      split at stops
      · next complete =>
        rcases exists_isFlawed_of_takeBetween stops with ⟨flawed, among, isFlawed⟩
        rw [if_pos complete]
        exact ⟨flawed, List.mem_cons_of_mem _ among, isFlawed⟩
      · next incomplete =>
        rw [if_neg incomplete]
        exact ⟨_, List.mem_singleton_self _, rfl⟩
  | text units | escape units | code units missing value =>
    unfold Mode.take at stops ⊢
    repeat' split at stops
    all_goals simp_all [Token.isFlawed, flawedText]

theorem exists_isFlawed_of_run (going : mode ≠ .stopped) (stops : (mode.run text).2 = .stopped) :
    ∃ token ∈ (mode.run text).1, token.isFlawed = true := by
  induction text generalizing mode with
  | nil => exact absurd stops going
  | cons c text ih =>
    simp only [Mode.run, List.mem_append] at stops ⊢
    by_cases next : (mode.take c).2 = .stopped
    · rcases exists_isFlawed_of_take going next with ⟨token, among, flawed⟩
      exact ⟨token, .inl among, flawed⟩
    · rcases ih next stops with ⟨token, among, flawed⟩
      exact ⟨token, .inr among, flawed⟩

/-- What is a numeral by itself is one in front of a text that does not go on with it. -/
theorem tokensFrom_of_alone (alone : tokensFrom .between text = [.numeral value])
    (apart : Apart rest) :
    tokensFrom .between (text ++ rest) = .numeral value :: tokensFrom .between rest := by
  have stops : (Mode.between.run text).2 = .stopped →
      ∃ token ∈ (Mode.between.run text).1, token.isFlawed = true :=
    exists_isFlawed_of_run (by simp)
  rw [tokensFrom_eq_run] at alone
  rw [tokensFrom_append]
  generalize Mode.between.run text = reached at alone stops ⊢
  rcases reached with ⟨completed, mode⟩
  simp only at alone stops ⊢
  have last : ∀ token, mode.finish = [token] → completed = [] ∧ token = .numeral value := by
    intro token finish
    rw [finish, List.append_eq_singleton_iff] at alone
    simpa using alone
  cases mode with
  | between =>
    simp only [Mode.finish, List.append_nil] at alone
    simp [alone]
  | stopped =>
    simp only [Mode.finish, List.append_nil] at alone
    simp [alone, Token.isFlawed] at stops
  | literal name token =>
    cases name with
    | nil =>
      rcases last token rfl with ⟨rfl, rfl⟩
      cases rest <;> rfl
    | cons expected name => simpa using (last _ rfl).2
  | number numeral =>
    by_cases complete : numeral.part.isComplete = true
    · rcases last (.numeral numeral.close) (by simp [Mode.finish, complete]) with ⟨rfl, same⟩
      rw [tokensFrom_number_of_apart complete apart, same]
      rfl
    · simpa using (last .unfinishedNumber (by simp [Mode.finish, complete])).2
  | text units | escape units => simpa [flawedText] using (last _ rfl).2
  | code units missing code => simpa [flawedText] using (last _ rfl).2

/-! ### Blanks, marks and names -/

/-- The characters that are tokens by themselves. -/
def marks : List Char :=
  ['[', ']', '\x7b', '\x7d', ',', ':']

theorem tokensFrom_mark (among : c ∈ marks) :
    tokensFrom .between (c :: rest) = .mark c :: tokensFrom .between rest := by
  simp only [marks, List.mem_cons, List.not_mem_nil, or_false] at among
  rcases among with rfl | rfl | rfl | rfl | rfl | rfl <;> rfl

theorem tokensFrom_blanks (blanks : List Char) (areBlanks : ∀ c ∈ blanks, isSpace c = true) :
    tokensFrom .between (blanks ++ rest) = tokensFrom .between rest := by
  induction blanks with
  | nil => rfl
  | cons c blanks ih =>
    rw [List.forall_mem_cons] at areBlanks
    rw [← ih areBlanks.2]
    simp [tokensFrom, Mode.take, takeBetween, areBlanks.1]

theorem tokensFrom_newLine (level : Nat) :
    tokensFrom .between ((newLine level).toList ++ rest) = tokensFrom .between rest := by
  apply tokensFrom_blanks
  intro c among
  simp only [newLine, String.toList_append, String.toList_ofList, List.mem_append] at among
  rcases among with first | inside
  · rw [List.mem_singleton.mp first]
    rfl
  · rw [List.eq_of_mem_replicate inside]
    rfl

theorem tokensFrom_null :
    tokensFrom .between ("null".toList ++ rest) = .null :: tokensFrom .between rest :=
  rfl

theorem tokensFrom_boolText (value : Bool) :
    tokensFrom .between ((boolText value).toList ++ rest) =
      .bool value :: tokensFrom .between rest := by
  cases value <;> rfl

/-! ### Texts in quotes -/

theorem hexValue?_hexDigit : ∀ digit < 16, hexValue? (hexDigit digit) = some digit := by
  decide

theorem run_escapeChar (units : List TextUnit) (c : Char) :
    (Mode.text units).run (escapeChar c) = ([], .text (.char c :: units)) := by
  unfold escapeChar
  split
  · next same => rw [beq_iff_eq.mp same]; rfl
  · next noQuote =>
    split
    · next same => rw [beq_iff_eq.mp same]; rfl
    · next noBackslash =>
      iterate 5
        split
        · next same => rw [beq_iff_eq.mp same]; rfl
      split
      · next control =>
        have whole : 16 * (c.toNat / 16) + c.toNat % 16 = c.toNat := Nat.div_add_mod _ _
        have unit : codeUnit c.toNat = .char c := by
          have noSurrogate : ¬ 0xD800 ≤ c.toNat := by omega
          simp [codeUnit, noSurrogate, Char.ofNat_toNat]
        have high := hexValue?_hexDigit (c.toNat / 16) (by omega)
        have low := hexValue?_hexDigit (c.toNat % 16) (by omega)
        have zero : hexValue? '0' = some 0 := rfl
        simp [Mode.run, Mode.take, zero, high, low, whole, unit]
      · next noControl =>
        simp [Mode.run, Mode.take, noQuote, noBackslash, noControl]

theorem run_escaped (units : List TextUnit) (characters : List Char) :
    (Mode.text units).run (characters.flatMap escapeChar) =
      ([], .text ((characters.map .char).reverse ++ units)) := by
  induction characters generalizing units with
  | nil => rfl
  | cons c characters ih =>
    rw [List.flatMap_cons, Mode.run_append, run_escapeChar, ih]
    simp

theorem tokensFrom_quote (content : String) :
    tokensFrom .between ((quote content).toList ++ rest) =
      .quoted (.ofString content) :: tokensFrom .between rest := by
  have opened (others : List Char) :
      tokensFrom .between ('"' :: others) = tokensFrom (.text []) others := rfl
  have closed (units : List TextUnit) : tokensFrom (.text units) ('"' :: rest) =
      .quoted ⟨units.reverse, none⟩ :: tokensFrom .between rest := rfl
  simp only [quote, String.toList_append, String.toList_ofList, List.append_assoc]
  show tokensFrom .between ('"' :: (_ ++ '"' :: rest)) = _
  rw [opened, tokensFrom_append, run_escaped, List.append_nil, closed, List.reverse_reverse]
  rfl

/-! ### Whole numbers -/

/-- The numeral of an integer. -/
def intNumeral (value : Int) : Numeral where
  negative := value < 0
  whole := (Nat.toDigits 10 value.natAbs).map digitValue
  fraction := none
  exponent := none

/-- A whole number being read. -/
def OpenNumeral.ofNat (negative : Bool) (number : Nat) : OpenNumeral where
  part := if number = 0 then .zero else .whole
  negative := negative
  whole := ((Nat.toDigits 10 number).map digitValue).reverse
  fraction := []
  exponentNegative := false
  exponent := []

theorem digitValue_digitChar :
    ∀ digit < 10, digit.digitChar.isDigit = true ∧ digitValue digit.digitChar = digit := by
  decide

theorem take?_digitChar {digit : Nat} (isDigit : digit < 10) (negative : Bool) :
    (OpenNumeral.empty negative).take? digit.digitChar = some (.ofNat negative digit) := by
  interval_cases digit <;> rfl

/-- One more digit behind a number that is not zero. -/
theorem ofNat_take?_digitChar {number digit : Nat} (positive : number ≠ 0) (isDigit : digit < 10)
    (negative : Bool) :
    (OpenNumeral.ofNat negative number).take? digit.digitChar =
      some (.ofNat negative (10 * number + digit)) := by
  have digits : Nat.toDigits 10 (10 * number + digit) =
      Nat.toDigits 10 number ++ [digit.digitChar] := by
    rw [← Nat.toDigits_append_toDigits (by decide) (by omega) isDigit,
      Nat.toDigits_of_lt_base isDigit]
  simp [OpenNumeral.take?, OpenNumeral.ofNat, positive, digits,
    digitValue_digitChar digit isDigit]

theorem run_toDigits (negative : Bool) (number : Nat) :
    (Mode.number (.empty negative)).run (Nat.toDigits 10 number) =
      ([], .number (.ofNat negative number)) := by
  induction number using Nat.strongRecOn with
  | ind number ih =>
    by_cases small : number < 10
    · rw [Nat.toDigits_of_lt_base small]
      simp [Mode.run, Mode.take, take?_digitChar small]
    · have least : 10 ≤ number := by omega
      have positive : number / 10 ≠ 0 := by omega
      have whole : 10 * (number / 10) + number % 10 = number := by omega
      rw [Nat.toDigits_of_base_le (by decide) least, Mode.run_append,
        ih (number / 10) (by omega)]
      simp [Mode.run, Mode.take, ofNat_take?_digitChar positive (Nat.mod_lt number _), whole]

theorem close_ofNat (negative : Bool) (number : Nat) :
    (OpenNumeral.ofNat negative number).close =
      ⟨negative, (Nat.toDigits 10 number).map digitValue, none, none⟩ := by
  simp [OpenNumeral.close, OpenNumeral.ofNat]

theorem isComplete_ofNat (negative : Bool) (number : Nat) :
    (OpenNumeral.ofNat negative number).part.isComplete = true := by
  unfold OpenNumeral.ofNat
  split <;> rfl

theorem tokensFrom_digits (negative : Bool) (number : Nat) (apart : Apart rest) :
    tokensFrom (.number (.empty negative)) (Nat.toDigits 10 number ++ rest) =
      .numeral ⟨negative, (Nat.toDigits 10 number).map digitValue, none, none⟩ ::
        tokensFrom .between rest := by
  rw [tokensFrom_append, run_toDigits, List.nil_append,
    tokensFrom_number_of_apart (isComplete_ofNat negative number) apart, close_ofNat]

/-- A numeral without a sign begins with its first digit. -/
theorem tokensFrom_between_of_isDigit (isDigit : c.isDigit = true) :
    tokensFrom .between (c :: rest) = tokensFrom (.number (.empty false)) (c :: rest) := by
  have among := Text.mem_digits_of_isDigit isDigit
  change c ∈ ['0', '1', '2', '3', '4', '5', '6', '7', '8', '9'] at among
  simp only [List.mem_cons, List.not_mem_nil, or_false] at among
  rcases among with rfl | rfl | rfl | rfl | rfl | rfl | rfl | rfl | rfl | rfl <;> rfl

theorem tokensFrom_toString (value : Int) (apart : Apart rest) :
    tokensFrom .between ((toString value).toList ++ rest) =
      .numeral (intNumeral value) :: tokensFrom .between rest := by
  cases value with
  | ofNat number =>
    have digits : (toString (Int.ofNat number)).toList = Nat.toDigits 10 number := by
      show (toString number).toList = _
      rw [Nat.toString_eq_repr, Nat.toList_repr]
    have numeral : intNumeral (Int.ofNat number) =
        ⟨false, (Nat.toDigits 10 number).map digitValue, none, none⟩ := by
      simp [intNumeral]
    rw [digits, numeral, ← tokensFrom_digits false number apart]
    cases written : Nat.toDigits 10 number with
    | nil => exact absurd written Nat.toDigits_ne_nil
    | cons c others =>
      have among : c ∈ Nat.toDigits 10 number := by simp [written]
      exact tokensFrom_between_of_isDigit
        (Nat.isDigit_of_mem_toDigits (by decide) (by decide) among)
  | negSucc number =>
    have digits : (toString (Int.negSucc number)).toList = '-' :: Nat.toDigits 10 (number + 1) := by
      show ("-" ++ toString (number + 1)).toList = _
      rw [String.toList_append, Nat.toString_eq_repr, Nat.toList_repr]
      rfl
    have numeral : intNumeral (Int.negSucc number) =
        ⟨true, (Nat.toDigits 10 (number + 1)).map digitValue, none, none⟩ := by
      simp [intNumeral]
    rw [digits, numeral, ← tokensFrom_digits true (number + 1) apart]
    rfl

end ClientGen.Json

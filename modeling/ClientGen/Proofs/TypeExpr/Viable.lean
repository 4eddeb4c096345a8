import ClientGen.Failure
import ClientGen.Proofs.TypeExpr.Automaton

/-!
# Where reading stops

Whatever tokens the automaton has taken, there are some that lead it on to a complete type: it only
has to finish what it has begun and to close the generic types that are open. So a text can be
continued to a type as long as its tokens can be taken, and what a complaint points to is the first
character with which that ends. That the word which cannot be taken might have gone on differently
is no way out, since the automaton takes any word or none.
-/

namespace ClientGen.TypeExpr

/-- Whether some characters begin a text that is read as a type. -/
def Viable (text : List Char) : Prop :=
  ∃ rest type, parse (String.ofList (text ++ rest)) = .ok type

variable {cs rest : List Char} {before after : List Placed} {placed : Placed} {ts others : List Token}
  {token : Token} {reading next last : Reading} {stack : List OpenType} {situation : Situation}
  {type : TypeExpr} {c : Char}

/-! ### Positions of tokens -/

/-- The characters in front of a token have the tokens before it, and keep them as long as the first
character of the token follows. -/
theorem exists_split {position : Nat}
    (split : tokensFrom [] position cs = before ++ placed :: after) :
    ∃ front c back, cs = front ++ c :: back ∧ placed.position = position + front.length ∧
      placed.token.Legal ∧ placed.token.chars.head? = some c ∧
      lex front = before.map (·.token) ∧
      ∀ rest, lex (front ++ c :: rest) = before.map (·.token) ++ lex (c :: rest) := by
  induction before generalizing cs position with
  | nil =>
    rcases exists_token cs with blank | ⟨blanks, token, behind, blank, legal, ends, rfl⟩
    · rw [← List.append_nil cs, tokensFrom_blanks position blank] at split
      cases split
    · rw [tokensFrom_blanks position blank, tokensFrom_chars _ legal ends] at split
      cases split
      cases spelled : token.chars with
      | nil => exact absurd spelled legal.chars_ne_nil
      | cons c chars =>
        refine ⟨blanks, c, chars ++ behind, rfl, rfl, legal, ?_, ?_, ?_⟩
        · rfl
        · rw [← List.append_nil blanks, lex_blanks blank]
          rfl
        · intro rest
          exact lex_blanks blank
  | cons first before ih =>
    rcases exists_token cs with blank | ⟨blanks, token, behind, blank, legal, ends, rfl⟩
    · rw [← List.append_nil cs, tokensFrom_blanks position blank] at split
      cases split
    · rw [tokensFrom_blanks position blank, tokensFrom_chars _ legal ends, List.cons_append,
        List.cons.injEq] at split
      rcases split with ⟨rfl, split⟩
      rcases ih split with ⟨front, c, back, rfl, counted, legalNext, begins, lexed, kept⟩
      refine ⟨blanks ++ (token.chars ++ front), c, back, ?_, ?_, legalNext, begins, ?_, ?_⟩
      · simp only [List.append_assoc]
      · rw [counted, List.length_append, List.length_append]
        omega
      · have own : token.Ends front := by
          apply ends.of_head?
          intro first isFirst
          rw [List.head?_append, Option.mem_def.mp isFirst]
          rfl
        rw [lex_blanks blank, lex_chars legal own, lexed]
        rfl
      · intro rest
        have own : token.Ends (front ++ c :: rest) := by
          apply ends.of_head?
          intro first isFirst
          rwa [List.head?_append] at isFirst ⊢
        rw [List.append_assoc, List.append_assoc, lex_blanks blank, lex_chars legal own, kept]
        rfl

/-- The first token of a text that begins with a character that may begin one. -/
theorem exists_lex_cons (cs : List Char) (visible : Text.isBlank c = false) :
    ∃ token ts, token.Legal ∧ token.chars.head? = some c ∧ lex (c :: cs) = token :: ts := by
  rcases exists_token (c :: cs) with blank | ⟨blanks, token, behind, blank, legal, ends, whole⟩
  · rw [blank c List.mem_cons_self] at visible
    cases visible
  · cases blanks with
    | cons first blanks =>
      rw [List.cons_append, List.cons.injEq] at whole
      rw [whole.1, blank first List.mem_cons_self] at visible
      cases visible
    | nil =>
      refine ⟨token, lex behind, legal, ?_, by rw [whole, List.nil_append, lex_chars legal ends]⟩
      cases spelled : token.chars with
      | nil => exact absurd spelled legal.chars_ne_nil
      | cons first chars =>
        rw [spelled, List.nil_append, List.cons_append, List.cons.injEq] at whole
        rw [whole.1, List.head?_cons]

theorem isBlank_of_head?_chars (legal : token.Legal) (begins : token.chars.head? = some c) :
    Text.isBlank c = false := by
  cases token with
  | word text =>
    have named := legal.named c (List.mem_of_mem_head? begins)
    rw [← Bool.not_eq_true]
    intro blank
    rw [isNameChar_of_isBlank blank] at named
    cases named
  | mark symbol =>
    cases begins
    exact legal.2

/-! ### Texts with given tokens -/

/-- Some characters that spell given tokens, each behind a blank. -/
def spaced (ts : List Token) : List Char :=
  ts.flatMap fun token => ' ' :: token.chars

theorem apart_spaced (ts : List Token) : Apart (spaced ts) := by
  cases ts with
  | nil => exact apart_nil
  | cons token ts => exact apart_cons (by decide)

theorem lex_spaced (legal : ∀ token ∈ ts, token.Legal) : lex (spaced ts) = ts := by
  induction ts with
  | nil => rfl
  | cons token ts ih =>
    rw [List.forall_mem_cons] at legal
    have split : spaced (token :: ts) = ' ' :: (token.chars ++ spaced ts) := rfl
    have ends : token.Ends (spaced ts) := by
      cases token with
      | word text => exact apart_spaced ts
      | mark symbol => trivial
    rw [split, lex_blank (by decide), lex_chars legal.1 ends, ih legal.2]

/-! ### Every reading leads to a type -/

namespace Reading

theorem exists_closing (stack : List OpenType) (holds : situation.Holds type) :
    ∃ ts final type, (∀ token ∈ ts, Token.Legal token) ∧
      Runs ⟨stack, situation⟩ ts ⟨[], final⟩ ∧ final.Holds type := by
  induction stack generalizing situation type with
  | nil => exact ⟨[], situation, type, by simp, .nothing _, holds⟩
  | cons top stack ih =>
    rcases ih (.type (apply top.name (type :: top.finished).reverse)) with
      ⟨ts, final, whole, legal, runs, finalHolds⟩
    refine ⟨.mark '>' :: ts, final, whole, ?_, .token (.closing holds) runs, finalHolds⟩
    exact List.forall_mem_cons.mpr ⟨⟨by decide, by decide⟩, legal⟩

theorem exists_completion (reading : Reading) :
    ∃ ts final type, (∀ token ∈ ts, Token.Legal token) ∧ Runs reading ts ⟨[], final⟩ ∧
      final.Holds type := by
  rcases reading with ⟨stack, situation⟩
  have legalWord : IsWord "T" := by decide +kernel
  cases situation with
  | beforeType =>
    rcases exists_closing stack (.word "T") with ⟨ts, final, type, legal, runs, holds⟩
    exact ⟨.word "T" :: ts, final, type, List.forall_mem_cons.mpr ⟨legalWord, legal⟩,
      .token (.word (by decide)) runs, holds⟩
  | beforeParameter =>
    rcases exists_closing stack (.type (.parameter "T")) with ⟨ts, final, type, legal, runs, holds⟩
    exact ⟨.word "T" :: ts, final, type, List.forall_mem_cons.mpr ⟨legalWord, legal⟩,
      .token .parameter runs, holds⟩
  | behindWord word => exact exists_closing stack (.word word)
  | behindType type => exact exists_closing stack (.type type)
  | insideBrackets element =>
    rcases exists_closing stack (.type (.array element)) with
      ⟨ts, final, type, legal, runs, holds⟩
    exact ⟨.mark ']' :: ts, final, type,
      List.forall_mem_cons.mpr ⟨⟨by decide, by decide⟩, legal⟩, .token .closingBracket runs, holds⟩

/-- What a run takes behind another one. -/
theorem Runs.of_append (first : Runs reading ts next) (whole : Runs reading (ts ++ others) last) :
    Runs next others last := by
  induction first with
  | nothing => exact whole
  | token step _ ih => exact ih (whole.of_step step)

/-- Where a word can be taken, so can any other one. -/
theorem exists_steps_word {word : String} (step : Steps reading (.word word) next)
    (other : String) : ∃ later, Steps reading (.word other) later := by
  cases step with
  | void | word =>
    by_cases isVoid : other = "void"
    · rw [isVoid]
      exact ⟨_, .void⟩
    · exact ⟨_, .word isVoid⟩
  | parameter => exact ⟨_, .parameter⟩

/-- A token that begins with the same character can be taken where another one can. -/
theorem exists_steps_of_head? {other : Token} (step : Steps reading token next)
    (legal : token.Legal) (otherLegal : other.Legal) (same : token.chars.head? = some c)
    (otherSame : other.chars.head? = some c) : ∃ later, Steps reading other later := by
  cases token with
  | word text =>
    cases other with
    | word otherText => exact exists_steps_word step otherText
    | mark symbol =>
      cases otherSame
      have named := legal.named c (List.mem_of_mem_head? same)
      rw [otherLegal.1] at named
      cases named
  | mark symbol =>
    cases same
    cases other with
    | word text =>
      have named := otherLegal.named c (List.mem_of_mem_head? otherSame)
      rw [legal.1] at named
      cases named
    | mark otherSymbol =>
      cases otherSame
      exact ⟨next, step⟩

/-- A complaint is about the first token that cannot be taken, or about the end of the text. -/
theorem takeAll_eq_error {ending position : Nat} {placed : List Placed} {expectation : Expectation}
    (refused : reading.takeAll ending placed = .error (expectation, position)) :
    (position = ending ∧ ∃ last, Runs reading (placed.map (·.token)) last) ∨
      ∃ before bad after last, placed = before ++ bad :: after ∧ bad.position = position ∧
        Runs reading (before.map (·.token)) last ∧ ∀ next, ¬Steps last bad.token next := by
  induction placed generalizing reading with
  | nil =>
    rw [takeAll] at refused
    left
    cases finished : reading.finish with
    | ok type =>
      rw [finished] at refused
      cases refused
    | error missing =>
      rw [finished] at refused
      cases refused
      exact ⟨rfl, reading, .nothing reading⟩
  | cons first placed ih =>
    rw [takeAll] at refused
    cases step : reading.take first.token with
    | error missing =>
      rw [step] at refused
      cases refused
      refine Or.inr ⟨[], first, placed, reading, rfl, rfl, .nothing reading, ?_⟩
      intro next taken
      rw [take_of_steps taken] at step
      cases step
    | ok next =>
      rw [step] at refused
      have taken := steps_of_take step
      rcases ih refused with ⟨atEnd, last, runs⟩ | ⟨before, bad, after, last, rfl, found, runs, stuck⟩
      · exact Or.inl ⟨atEnd, last, .token taken runs⟩
      · exact Or.inr ⟨first :: before, bad, after, last, rfl, found, .token taken runs, stuck⟩

end Reading

/-! ### Viable texts -/

open Reading

theorem viable_of_runs (runs : Runs .start (lex cs) last) : Viable cs := by
  rcases exists_completion last with ⟨ts, final, type, legal, more, holds⟩
  refine ⟨spaced ts, type, parse_eq_ok_iff.mpr ⟨final, ?_, holds⟩⟩
  rw [String.toList_ofList, lex_append (apart_spaced ts), lex_spaced legal]
  exact runs.append more

/-- What ends with the first character of a token that cannot be taken is not viable. -/
theorem not_viable_of_stuck {front : List Char} (runs : Runs .start (lex front) last)
    (stuck : ∀ next, ¬Steps last token next) (legal : token.Legal)
    (begins : token.chars.head? = some c)
    (kept : ∀ rest, lex (front ++ c :: rest) = lex front ++ lex (c :: rest)) :
    ¬Viable (front ++ [c]) := by
  rintro ⟨rest, type, parsed⟩
  rcases parse_eq_ok_iff.mp parsed with ⟨final, whole, -⟩
  rw [String.toList_ofList, List.append_assoc, List.singleton_append, kept] at whole
  rcases exists_lex_cons rest (isBlank_of_head?_chars legal begins) with
    ⟨other, ts, otherLegal, otherBegins, lexed⟩
  rw [lexed] at whole
  cases runs.of_append whole with
  | token step _ =>
    rcases exists_steps_of_head? step otherLegal legal otherBegins begins with ⟨later, possible⟩
    exact stuck later possible

/-- Where a text is refused, the characters before the position that is told can be continued to a
type, and one more character makes that impossible. If there is no such character, then the text
itself can be continued, but is not a type yet. -/
theorem position_of_parse {text : String} {error : ParseError}
    (refused : parse text = .error error) :
    Failure.ofParseError error = .typeExpression text
        (error.expectation.message ++ " at position " ++ toString error.position) ∧
      error.position ≤ text.length ∧
      Viable (text.toList.take error.position) ∧
      (error.position < text.length → ¬Viable (text.toList.take (error.position + 1))) ∧
      (error.position = text.length →
        ∃ rest type, rest ≠ [] ∧ parse (String.ofList (text.toList ++ rest)) = .ok type) := by
  have outcome : error.text = text ∧ Reading.start.takeAll text.toList.length (tokens text.toList) =
      .error (error.expectation, error.position) := by
    rw [parse] at refused
    cases taken : Reading.start.takeAll text.toList.length (tokens text.toList) with
    | ok type =>
      simp only [taken] at refused
      cases refused
    | error complaint =>
      simp only [taken] at refused
      cases refused
      exact ⟨rfl, rfl⟩
  rcases outcome with ⟨sameText, taken⟩
  refine ⟨by rw [← sameText]; rfl, ?_⟩
  rw [← String.length_toList]
  rcases takeAll_eq_error taken with ⟨atEnd, last, runs⟩ |
    ⟨before, bad, after, last, split, found, runs, stuck⟩
  · have viable : Viable text.toList := viable_of_runs runs
    rw [atEnd, List.take_length]
    refine ⟨le_refl _, viable, fun less => absurd less (lt_irrefl _), fun _ => ?_⟩
    rcases viable with ⟨rest, type, parsed⟩
    refine ⟨rest, type, ?_, parsed⟩
    rintro rfl
    rw [List.append_nil, String.ofList_toList, refused] at parsed
    cases parsed
  · rcases exists_split split with ⟨front, c, back, whole, counted, legal, begins, lexed, kept⟩
    rw [← found, counted, Nat.zero_add, whole, List.length_append, List.length_cons]
    rw [← lexed] at runs kept
    have atToken : (front ++ c :: back).take (front.length + 1) = front ++ [c] := by
      rw [List.append_cons]
      exact List.take_left' List.length_append
    refine ⟨by omega, ?_, fun _ => ?_, fun atEnd => by omega⟩
    · rw [List.take_left]
      exact viable_of_runs runs
    · rw [atToken]
      exact not_viable_of_stuck runs stuck legal begins kept

/-- An argument that is missing, and brackets that are not closed. -/
theorem position_of_parse_list :
    parse "List<int, >[]" = .error ⟨"List<int, >[]", .typeName, 10⟩ ∧
      Viable "List<int, ".toList ∧ ¬Viable "List<int, >".toList ∧
      parse "int[ " = .error ⟨"int[ ", .closingBracket, 5⟩ ∧
      ∃ rest type, rest ≠ [] ∧ parse (String.ofList ("int[ ".toList ++ rest)) = .ok type := by
  have missing : parse "List<int, >[]" = .error ⟨"List<int, >[]", .typeName, 10⟩ := by rfl
  have unclosed : parse "int[ " = .error ⟨"int[ ", .closingBracket, 5⟩ := by rfl
  rcases position_of_parse missing with ⟨-, -, viable, notViable, -⟩
  exact ⟨missing, viable, notViable (by decide), unclosed,
    (position_of_parse unclosed).2.2.2.2 (by decide)⟩

end ClientGen.TypeExpr

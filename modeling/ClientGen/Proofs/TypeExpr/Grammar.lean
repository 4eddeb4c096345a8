import ClientGen.Proofs.TypeExpr.Tokens
import ClientGen.TypeExpr.Basic

/-!
# The grammar of type expressions

A type is written as a head, which is a generic parameter, no value, or a name with or without
arguments, and endings that wrap what stands before them. Blanks may stand before every token. The
grammar says which characters spell which type, and what a written type denotes is told by its
structure alone.

Since the tokens of a text are all there is to it, a text is spelled as some type if its tokens are
those of the type; and no two types have the same tokens, because behind a head and behind every
ending the next token tells whether there are any more.
-/

namespace ClientGen.TypeExpr

/-- A word that names a type, as every word does but the one for no value. -/
@[ext]
structure TypeName extends Word where
  notVoid : text ≠ "void"

/-- What may stand behind a type and makes another type of it. -/
inductive Ending where
  | brackets
  | question

mutual

/-- A type as it is written. -/
inductive Written where
  | mk (head : Head) (endings : List Ending)

/-- What a written type begins with. -/
inductive Head where
  | parameter (name : Word)
  | void
  | plain (name : TypeName)
  | generic (name : TypeName) (first : Written) (others : List Written)

end

/-! ### What is meant -/

/-- The full name of a generic type, with the number of its arguments unless the name says it. -/
def markedName (name : String) (count : Nat) : String :=
  if '\x60' ∈ name.toList then expandKeyword name
  else expandKeyword name ++ "\x60" ++ toString count

def Ending.applied (type : TypeExpr) : Ending → TypeExpr
  | .brackets => .array type
  | .question => .named "System.Nullable\x601" [type]

mutual

/-- The type that is meant. Endings are applied from left to right. -/
def Written.meaning : Written → TypeExpr
  | ⟨head, endings⟩ => endings.foldl Ending.applied head.meaning

def Head.meaning : Head → TypeExpr
  | .parameter name => .parameter name.text
  | .void => .void
  | .plain name => .named (expandKeyword name.text) []
  | .generic name first others =>
    .named (markedName name.text (others.length + 1)) (first.meaning :: meanings others)

def meanings : List Written → List TypeExpr
  | [] => []
  | written :: others => written.meaning :: meanings others

end

theorem meanings_eq_map (others : List Written) :
    meanings others = others.map Written.meaning := by
  induction others with
  | nil => rfl
  | cons written others ih => rw [meanings, ih, List.map_cons]

/-! ### What is spelled -/

inductive Ending.Spelled : Ending → List Char → Prop
  | brackets {opening closing : List Char} (opens : Lexeme ['['] opening)
    (closes : Lexeme [']'] closing) : Spelled .brackets (opening ++ closing)
  | question {text : List Char} (asks : Lexeme ['?'] text) : Spelled .question text

inductive EndingsSpelled : List Ending → List Char → Prop
  | nil : EndingsSpelled [] []
  | cons {ending endings before behind} (first : Ending.Spelled ending before)
    (others : EndingsSpelled endings behind) : EndingsSpelled (ending :: endings) (before ++ behind)

mutual

/-- Whether some characters spell a type. -/
inductive Written.Spelled : Written → List Char → Prop
  | mk {head endings before behind} (begins : Head.Spelled head before)
    (ends : EndingsSpelled endings behind) : Written.Spelled ⟨head, endings⟩ (before ++ behind)

inductive Head.Spelled : Head → List Char → Prop
  | parameter {name : Word} {dollar text : List Char} (marked : Lexeme ['$'] dollar)
    (named : Lexeme name.text.toList text) : Head.Spelled (.parameter name) (dollar ++ text)
  | void {text : List Char} (named : Lexeme "void".toList text) : Head.Spelled .void text
  | plain {name : TypeName} {text : List Char} (named : Lexeme name.text.toList text) :
    Head.Spelled (.plain name) text
  | generic {name : TypeName} {first others text opening inner separated closing}
    (named : Lexeme name.text.toList text) (opens : Lexeme ['<'] opening)
    (begins : Written.Spelled first inner) (continues : OthersSpelled others separated)
    (closes : Lexeme ['>'] closing) :
    Head.Spelled (.generic name first others)
      (text ++ (opening ++ (inner ++ (separated ++ closing))))

/-- Whether some characters spell further arguments, each behind a comma. -/
inductive OthersSpelled : List Written → List Char → Prop
  | nil : OthersSpelled [] []
  | cons {written others comma inner separated} (separates : Lexeme [','] comma)
    (begins : Written.Spelled written inner) (continues : OthersSpelled others separated) :
    OthersSpelled (written :: others) (comma ++ (inner ++ separated))

end

/-- Whether a text spells a type and has nothing but blanks behind it. -/
def Expression (written : Written) (text : List Char) : Prop :=
  ∃ before blanks, text = before ++ blanks ∧ written.Spelled before ∧
    ∀ c ∈ blanks, Text.isBlank c = true

/-! ### Tokens of a written type -/

def Ending.tokens : Ending → List Token
  | .brackets => [.mark '[', .mark ']']
  | .question => [.mark '?']

mutual

/-- The tokens of a written type. -/
def Written.tokens : Written → List Token
  | ⟨head, endings⟩ => head.tokens ++ endings.flatMap Ending.tokens

def Head.tokens : Head → List Token
  | .parameter name => [.mark '$', .word name.text]
  | .void => [.word "void"]
  | .plain name => [.word name.text]
  | .generic name first others =>
    .word name.text :: .mark '<' :: (first.tokens ++ (othersTokens others ++ [.mark '>']))

def othersTokens : List Written → List Token
  | [] => []
  | written :: others => .mark ',' :: (written.tokens ++ othersTokens others)

end

def voidWord : Word :=
  ⟨"void", by decide +kernel⟩

variable {text rest : List Char} {ts : List Token}

theorem EndingsSpelled.apart {endings : List Ending} (spelled : EndingsSpelled endings text)
    (apart : Apart rest) : Apart (text ++ rest) := by
  cases spelled with
  | nil => exact apart
  | cons first others =>
    rw [List.append_assoc]
    cases first with
    | brackets opens closes =>
      rw [List.append_assoc]
      exact opens.apart (by decide)
    | question asks => exact asks.apart (by decide)

theorem OthersSpelled.apart {others : List Written} (spelled : OthersSpelled others text)
    (apart : Apart rest) : Apart (text ++ rest) := by
  cases spelled with
  | nil => exact apart
  | cons separates begins continues =>
    rw [List.append_assoc]
    exact separates.apart (by decide)

theorem EndingsSpelled.lex {endings : List Ending} (spelled : EndingsSpelled endings text) :
    TypeExpr.lex (text ++ rest) = endings.flatMap Ending.tokens ++ TypeExpr.lex rest := by
  induction spelled with
  | nil => rfl
  | cons first others ih =>
    rw [List.append_assoc, List.flatMap_cons, List.append_assoc, ← ih]
    cases first with
    | brackets opens closes =>
      rw [List.append_assoc, opens.lex_mark (by decide) (by decide),
        closes.lex_mark (by decide) (by decide)]
      rfl
    | question asks =>
      rw [asks.lex_mark (by decide) (by decide)]
      rfl

mutual

theorem Written.lex_of_spelled : ∀ (written : Written) {text rest : List Char},
    written.Spelled text → Apart rest → lex (text ++ rest) = written.tokens ++ lex rest
  | ⟨head, endings⟩, _, rest, spelled, apart => by
    cases spelled with
    | mk begins ends =>
      rw [Written.tokens, List.append_assoc, List.append_assoc, ← ends.lex]
      exact Head.lex_of_spelled head begins (ends.apart apart)

theorem Head.lex_of_spelled : ∀ (head : Head) {text rest : List Char},
    head.Spelled text → Apart rest → lex (text ++ rest) = head.tokens ++ lex rest
  | .parameter name, _, rest, spelled, apart => by
    cases spelled with
    | parameter marked named =>
      rw [List.append_assoc, marked.lex_mark (by decide) (by decide), named.lex_word apart]
      rfl
  | .void, text, rest, spelled, apart => by
    cases spelled with
    | void named =>
      have isVoid : Lexeme voidWord.text.toList text := named
      exact isVoid.lex_word apart
  | .plain name, _, rest, spelled, apart => by
    cases spelled with
    | plain named => exact named.lex_word apart
  | .generic name first others, _, rest, spelled, apart => by
    cases spelled with
    | generic named opens begins continues closes =>
      simp only [List.append_assoc]
      rw [named.lex_word (opens.apart (by decide)), opens.lex_mark (by decide) (by decide),
        Written.lex_of_spelled first begins (continues.apart (closes.apart (by decide))),
        othersLex_of_spelled others continues (closes.apart (by decide)),
        closes.lex_mark (by decide) (by decide)]
      simp [Head.tokens]

theorem othersLex_of_spelled : ∀ (others : List Written) {text rest : List Char},
    OthersSpelled others text → Apart rest → lex (text ++ rest) = othersTokens others ++ lex rest
  | [], _, rest, spelled, apart => by
    cases spelled
    rfl
  | written :: others, _, rest, spelled, apart => by
    cases spelled with
    | cons separates begins continues =>
      rw [List.append_assoc, List.append_assoc, separates.lex_mark (by decide) (by decide),
        Written.lex_of_spelled written begins (continues.apart apart),
        othersLex_of_spelled others continues apart]
      simp [othersTokens]

end

/-! ### Texts with the tokens of a written type -/

theorem EndingsSpelled.exists_of_lex {endings : List Ending}
    (lexed : TypeExpr.lex text = endings.flatMap Ending.tokens ++ ts) :
    ∃ before behind, text = before ++ behind ∧ EndingsSpelled endings before ∧
      TypeExpr.lex behind = ts := by
  induction endings generalizing text with
  | nil => exact ⟨[], text, rfl, .nil, lexed⟩
  | cons ending endings ih =>
    cases ending with
    | brackets =>
      rcases exists_lexeme_of_lex_eq_cons lexed with ⟨-, opening, _, rfl, opens, lexed⟩
      rcases exists_lexeme_of_lex_eq_cons lexed with ⟨-, closing, _, rfl, closes, lexed⟩
      rcases ih lexed with ⟨before, behind, rfl, spelled, lexed⟩
      refine ⟨opening ++ closing ++ before, behind, ?_, .cons (.brackets opens closes) spelled,
        lexed⟩
      simp only [List.append_assoc]
    | question =>
      rcases exists_lexeme_of_lex_eq_cons lexed with ⟨-, mark, _, rfl, asks, lexed⟩
      rcases ih lexed with ⟨before, behind, rfl, spelled, lexed⟩
      refine ⟨mark ++ before, behind, ?_, .cons (.question asks) spelled, lexed⟩
      rw [List.append_assoc]

mutual

theorem Written.exists_of_lex : ∀ (written : Written) {text : List Char} {ts : List Token},
    lex text = written.tokens ++ ts →
      ∃ before behind, text = before ++ behind ∧ written.Spelled before ∧ lex behind = ts
  | ⟨head, endings⟩, text, ts, lexed => by
    rw [Written.tokens, List.append_assoc] at lexed
    rcases Head.exists_of_lex head lexed with ⟨before, _, rfl, begins, lexed⟩
    rcases EndingsSpelled.exists_of_lex lexed with ⟨middle, behind, rfl, ends, lexed⟩
    exact ⟨before ++ middle, behind, (List.append_assoc ..).symm, .mk begins ends, lexed⟩

theorem Head.exists_of_lex : ∀ (head : Head) {text : List Char} {ts : List Token},
    lex text = head.tokens ++ ts →
      ∃ before behind, text = before ++ behind ∧ head.Spelled before ∧ lex behind = ts
  | .parameter name, text, ts, lexed => by
    rcases exists_lexeme_of_lex_eq_cons lexed with ⟨-, dollar, _, rfl, marked, lexed⟩
    rcases exists_lexeme_of_lex_eq_cons lexed with ⟨-, own, behind, rfl, named, lexed⟩
    exact ⟨dollar ++ own, behind, (List.append_assoc ..).symm, .parameter marked named, lexed⟩
  | .void, text, ts, lexed => by
    rcases exists_lexeme_of_lex_eq_cons lexed with ⟨-, own, behind, rfl, named, lexed⟩
    exact ⟨own, behind, rfl, .void named, lexed⟩
  | .plain name, text, ts, lexed => by
    rcases exists_lexeme_of_lex_eq_cons lexed with ⟨-, own, behind, rfl, named, lexed⟩
    exact ⟨own, behind, rfl, .plain named, lexed⟩
  | .generic name first others, text, ts, lexed => by
    simp only [Head.tokens, List.cons_append, List.append_assoc] at lexed
    rcases exists_lexeme_of_lex_eq_cons lexed with ⟨-, own, _, rfl, named, lexed⟩
    rcases exists_lexeme_of_lex_eq_cons lexed with ⟨-, opening, _, rfl, opens, lexed⟩
    rcases Written.exists_of_lex first lexed with ⟨inner, _, rfl, begins, lexed⟩
    rcases exists_of_othersLex others lexed with ⟨separated, _, rfl, continues, lexed⟩
    rcases exists_lexeme_of_lex_eq_cons lexed with ⟨-, closing, behind, rfl, closes, lexed⟩
    refine ⟨_, behind, ?_, .generic named opens begins continues closes, lexed⟩
    simp only [List.append_assoc]

theorem exists_of_othersLex : ∀ (others : List Written) {text : List Char} {ts : List Token},
    lex text = othersTokens others ++ ts →
      ∃ before behind, text = before ++ behind ∧ OthersSpelled others before ∧ lex behind = ts
  | [], text, ts, lexed => ⟨[], text, rfl, .nil, lexed⟩
  | written :: others, text, ts, lexed => by
    simp only [othersTokens, List.cons_append, List.append_assoc] at lexed
    rcases exists_lexeme_of_lex_eq_cons lexed with ⟨-, comma, _, rfl, separates, lexed⟩
    rcases Written.exists_of_lex written lexed with ⟨inner, _, rfl, begins, lexed⟩
    rcases exists_of_othersLex others lexed with ⟨separated, behind, rfl, continues, lexed⟩
    refine ⟨_, behind, ?_, .cons separates begins continues, lexed⟩
    simp only [List.append_assoc]

end

/-- A text is spelled as a type if its tokens are those of the type. -/
theorem expression_iff {written : Written} : Expression written text ↔
    lex text = written.tokens := by
  constructor
  · rintro ⟨before, blanks, rfl, spelled, blank⟩
    have nothing : lex blanks = [] := by
      rw [← List.append_nil blanks, lex_blanks blank, lex_nil]
    have apart : Apart blanks := by
      intro c first
      exact isNameChar_of_isBlank (blank c (List.mem_of_mem_head? first))
    rw [Written.lex_of_spelled written spelled apart, nothing, List.append_nil]
  · intro lexed
    rw [← List.append_nil written.tokens] at lexed
    rcases Written.exists_of_lex written lexed with ⟨before, blanks, whole, spelled, nothing⟩
    exact ⟨before, blanks, whole, spelled, isBlank_of_lex_eq_nil nothing⟩

/-! ### Written types with the same tokens -/

def NoEnding (ts : List Token) : Prop :=
  ts.head? ≠ some (.mark '[') ∧ ts.head? ≠ some (.mark '?')

/-- Whether a type is over, as neither arguments nor an ending come next. -/
def Over (ts : List Token) : Prop :=
  ts.head? ≠ some (.mark '<') ∧ NoEnding ts

variable {following otherFollowing : List Token}

theorem endings_eq_of_tokens {endings otherEndings : List Ending} (ends : NoEnding following)
    (otherEnds : NoEnding otherFollowing)
    (same : endings.flatMap Ending.tokens ++ following =
      otherEndings.flatMap Ending.tokens ++ otherFollowing) :
    endings = otherEndings ∧ following = otherFollowing := by
  induction endings generalizing otherEndings with
  | nil =>
    cases otherEndings with
    | nil => exact ⟨rfl, same⟩
    | cons ending _ =>
      cases same
      cases ending <;> simp [NoEnding, Ending.tokens] at ends
  | cons ending endings ih =>
    cases otherEndings with
    | nil =>
      cases same
      cases ending <;> simp [NoEnding, Ending.tokens] at otherEnds
    | cons otherEnding otherEndings =>
      rw [List.flatMap_cons, List.flatMap_cons, List.append_assoc, List.append_assoc] at same
      cases ending <;> cases otherEnding <;> simp [Ending.tokens] at same
      all_goals
        rcases ih same with ⟨rfl, rfl⟩
        exact ⟨rfl, rfl⟩

theorem head?_endings {endings : List Ending} (noArguments : following.head? ≠ some (.mark '<')) :
    (endings.flatMap Ending.tokens ++ following).head? ≠ some (.mark '<') := by
  cases endings with
  | nil => exact noArguments
  | cons ending endings => cases ending <;> simp [Ending.tokens]

theorem over_others (others : List Written) :
    Over (othersTokens others ++ .mark '>' :: following) := by
  cases others <;> simp [Over, NoEnding, othersTokens]

mutual

theorem Written.eq_of_tokens : ∀ (written other : Written) {following otherFollowing : List Token},
    Over following → Over otherFollowing →
      written.tokens ++ following = other.tokens ++ otherFollowing →
        written = other ∧ following = otherFollowing
  | ⟨head, endings⟩, ⟨otherHead, otherEndings⟩, following, otherFollowing, ends, otherEnds,
      same => by
    rw [Written.tokens, Written.tokens, List.append_assoc, List.append_assoc] at same
    rcases Head.eq_of_tokens head otherHead (head?_endings ends.1) (head?_endings otherEnds.1) same
      with ⟨rfl, sameEndings⟩
    rcases endings_eq_of_tokens ends.2 otherEnds.2 sameEndings with ⟨rfl, rfl⟩
    exact ⟨rfl, rfl⟩

theorem Head.eq_of_tokens : ∀ (head other : Head) {following otherFollowing : List Token},
    following.head? ≠ some (.mark '<') → otherFollowing.head? ≠ some (.mark '<') →
      head.tokens ++ following = other.tokens ++ otherFollowing →
        head = other ∧ following = otherFollowing
  | .parameter name, other, following, otherFollowing, _, _, same => by
    cases other with
    | parameter otherName =>
      simp only [Head.tokens, List.cons_append, List.nil_append, List.cons.injEq, true_and,
        Token.word.injEq] at same
      rw [Word.ext same.1]
      exact ⟨rfl, same.2⟩
    | _ => simp [Head.tokens] at same
  | .void, other, following, otherFollowing, _, _, same => by
    cases other with
    | parameter _ => simp [Head.tokens] at same
    | void => exact ⟨rfl, by simpa [Head.tokens] using same⟩
    | plain otherName => simp [Head.tokens, otherName.notVoid.symm] at same
    | generic otherName _ _ => simp [Head.tokens, otherName.notVoid.symm] at same
  | .plain name, other, following, otherFollowing, noArguments, _, same => by
    cases other with
    | parameter _ => simp [Head.tokens] at same
    | void => simp [Head.tokens, name.notVoid] at same
    | plain otherName =>
      simp only [Head.tokens, List.cons_append, List.nil_append, List.cons.injEq,
        Token.word.injEq] at same
      rw [TypeName.ext same.1]
      exact ⟨rfl, same.2⟩
    -- An angle behind one of the names would have to follow the other one too.
    | generic otherName _ _ =>
      simp only [Head.tokens, List.cons_append, List.nil_append, List.cons.injEq] at same
      rw [same.2] at noArguments
      exact absurd rfl noArguments
  | .generic name first others, other, following, otherFollowing, _, otherNoArguments, same => by
    cases other with
    | parameter _ => simp [Head.tokens] at same
    | void => simp [Head.tokens, name.notVoid] at same
    | plain otherName =>
      simp only [Head.tokens, List.cons_append, List.nil_append, List.cons.injEq] at same
      rw [← same.2] at otherNoArguments
      exact absurd rfl otherNoArguments
    | generic otherName otherFirst otherOthers =>
      simp only [Head.tokens, List.cons_append, List.nil_append, List.cons.injEq, List.append_assoc,
        Token.word.injEq, true_and] at same
      rw [TypeName.ext same.1]
      rcases Written.eq_of_tokens first otherFirst (over_others others) (over_others otherOthers)
        same.2 with ⟨rfl, sameOthers⟩
      rcases eq_of_othersTokens others otherOthers sameOthers with ⟨rfl, rfl⟩
      exact ⟨rfl, rfl⟩

theorem eq_of_othersTokens : ∀ (others more : List Written) {following otherFollowing : List Token},
    othersTokens others ++ .mark '>' :: following =
        othersTokens more ++ .mark '>' :: otherFollowing →
      others = more ∧ following = otherFollowing
  | [], [], following, otherFollowing, same => ⟨rfl, (List.cons.inj same).2⟩
  | [], _ :: _, following, otherFollowing, same => by simp [othersTokens] at same
  | _ :: _, [], following, otherFollowing, same => by simp [othersTokens] at same
  | written :: others, other :: more, following, otherFollowing, same => by
    simp only [othersTokens, List.cons_append, List.cons.injEq, List.append_assoc, true_and] at same
    rcases Written.eq_of_tokens written other (over_others others) (over_others more) same with
      ⟨rfl, sameOthers⟩
    rcases eq_of_othersTokens others more sameOthers with ⟨rfl, rfl⟩
    exact ⟨rfl, rfl⟩

end

/-- A text is spelled as one type at most. -/
theorem Expression.unique {written other : Written} (first : Expression written text)
    (second : Expression other text) : written = other := by
  have same : written.tokens ++ [] = other.tokens ++ [] := by
    rw [← expression_iff.mp first, expression_iff.mp second]
  have ends : Over [] := by simp [Over, NoEnding]
  exact (Written.eq_of_tokens written other ends ends same).1

end ClientGen.TypeExpr

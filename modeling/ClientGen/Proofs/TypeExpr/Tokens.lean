import ClientGen.TypeExpr.Token
import Mathlib.Data.List.TakeWhile

/-!
# Tokens and the characters that spell them

Leaving positions aside, a text is spelled by its tokens: each of them stands behind some blanks,
and behind the last one there are only blanks. A word goes on for as long as there are characters of
names, so nothing that follows it may begin with one. The tokens of a text say as much: there is no
other way to split it up.
-/

namespace ClientGen.TypeExpr

/-- Whether a text is a run of characters of names, of which there is at least one. -/
structure IsWord (text : String) : Prop where
  nonempty : text.toList ≠ []
  named : ∀ c ∈ text.toList, isNameChar c = true

theorem isWord_iff {text : String} :
    IsWord text ↔ text.toList ≠ [] ∧ text.toList.all isNameChar = true := by
  rw [List.all_eq_true]
  exact ⟨fun isWord => ⟨isWord.nonempty, isWord.named⟩, fun both => ⟨both.1, both.2⟩⟩

instance (text : String) : Decidable (IsWord text) :=
  decidable_of_iff _ isWord_iff.symm

@[ext]
structure Word where
  text : String
  isWord : IsWord text

/-- The tokens of some characters, without their positions. -/
def lex (text : List Char) : List Token :=
  (tokens text).map (·.token)

/-- Whether some characters do not go on with a word. -/
def Apart (text : List Char) : Prop :=
  ∀ c ∈ text.head?, isNameChar c = false

/-- Whether some characters are blanks and then those of a token. -/
def Lexeme (lexeme text : List Char) : Prop :=
  ∃ blanks, (∀ c ∈ blanks, Text.isBlank c = true) ∧ text = blanks ++ lexeme

variable {c : Char} {cs blanks lexeme text rest : List Char} {ts : List Token} {token : Token}

/-! ### Characters -/

/-- The code points of the blanks, as inclusive ranges. -/
def blankRanges : List (Nat × Nat) :=
  [(9, 13), (32, 32), (133, 133), (160, 160), (5760, 5760), (8192, 8202), (8232, 8233),
    (8239, 8239), (8287, 8287), (12288, 12288)]

theorem exists_mem_blankRanges (blank : Text.isBlank c = true) :
    ∃ blanks ∈ blankRanges, blanks.1 ≤ c.toNat ∧ c.toNat ≤ blanks.2 := by
  simp only [Text.isBlank, Bool.or_eq_true, Bool.and_eq_true, decide_eq_true_eq, beq_iff_eq] at blank
  simp only [blankRanges, List.mem_cons, List.not_mem_nil, or_false, exists_eq_or_imp,
    exists_eq_left]
  omega

theorem inRanges_of_isBlank {ranges : Array (Nat × Nat)}
    (apart : (ranges.toList.all fun range => blankRanges.all fun blanks =>
      range.2 < blanks.1 || blanks.2 < range.1) = true)
    (blank : Text.isBlank c = true) : Text.inRanges ranges c = false := by
  rcases exists_mem_blankRanges blank with ⟨blanks, among, first, last⟩
  rw [Text.inRanges, ← Array.any_toList, List.any_eq_false]
  intro range isRange
  have between := List.all_eq_true.mp (List.all_eq_true.mp apart range isRange) blanks among
  simp only [Bool.or_eq_true, Bool.and_eq_true, decide_eq_true_eq] at between ⊢
  omega

/-- No blank belongs to a name. -/
theorem isNameChar_of_isBlank (blank : Text.isBlank c = true) : isNameChar c = false := by
  by_cases ascii : c.toNat < 128
  · have none : ∀ code < 128, Text.isBlank (Char.ofNat code) = true →
        isNameChar (Char.ofNat code) = false := by decide
    have own := none c.toNat ascii
    rw [Char.ofNat_toNat] at own
    exact own blank
  · have beyond : ¬c.val < 128 := ascii
    have unlike (mark : Char) (simple : mark.toNat < 128) : c ≠ mark := by
      rintro rfl
      exact ascii simple
    have notLetter : Text.inRanges Text.alphabeticRanges c = false :=
      inRanges_of_isBlank (by decide +kernel) blank
    have notNumber : Text.inRanges Text.numberRanges c = false :=
      inRanges_of_isBlank (by decide +kernel) blank
    simp [isNameChar, Text.isAlphanumeric, beyond, notLetter, notNumber, unlike]

/-! ### Tokens of what is spelled -/

/-- Where the text stands does not matter for its tokens. -/
theorem map_token_tokensFrom (collected : List Char) (position other : Nat) :
    (tokensFrom collected position cs).map (·.token) =
      (tokensFrom collected other cs).map (·.token) := by
  induction cs generalizing collected position other with
  | nil =>
    simp only [tokensFrom, closeWord]
    split <;> rfl
  | cons c cs ih =>
    simp only [tokensFrom]
    split
    · exact ih (c :: collected) _ _
    · have sameWord : (closeWord collected position).map (·.token) =
          (closeWord collected other).map (·.token) := by
        simp only [closeWord]
        split <;> rfl
      rw [List.map_append, List.map_append, sameWord]
      split
      · rw [ih [] (position + 1) (other + 1)]
      · rw [List.map_cons, List.map_cons, ih [] (position + 1) (other + 1)]

@[simp]
theorem lex_nil : lex [] = [] :=
  rfl

theorem lex_blank (blank : Text.isBlank c = true) : lex (c :: cs) = lex cs := by
  simp only [lex, tokens, tokensFrom, isNameChar_of_isBlank blank, blank, closeWord, if_true,
    Bool.false_eq_true, if_false, List.isEmpty_nil, List.nil_append]
  exact map_token_tokensFrom [] 1 0

theorem lex_mark (other : isNameChar c = false) (visible : Text.isBlank c = false) :
    lex (c :: cs) = .mark c :: lex cs := by
  simp only [lex, tokens, tokensFrom, other, visible, closeWord, if_true, Bool.false_eq_true,
    if_false, List.isEmpty_nil, List.nil_append, List.map_cons]
  rw [map_token_tokensFrom [] (0 + 1) 0]

theorem tokensFrom_blanks (position : Nat) (blank : ∀ c ∈ blanks, Text.isBlank c = true) :
    tokensFrom [] position (blanks ++ text) = tokensFrom [] (position + blanks.length) text := by
  induction blanks generalizing position with
  | nil => rfl
  | cons c blanks ih =>
    rw [List.forall_mem_cons] at blank
    simp only [List.cons_append, tokensFrom, isNameChar_of_isBlank blank.1, blank.1, closeWord,
      List.isEmpty_nil, if_true, Bool.false_eq_true, if_false, List.nil_append]
    rw [ih (position + 1) blank.2, List.length_cons, Nat.add_right_comm, Nat.add_assoc]

theorem lex_blanks (blank : ∀ c ∈ blanks, Text.isBlank c = true) :
    lex (blanks ++ text) = lex text := by
  rw [lex, tokens, tokensFrom_blanks 0 blank, map_token_tokensFrom [] _ 0]
  rfl

theorem tokensFrom_append (collected : List Char) (position : Nat)
    (named : ∀ c ∈ cs, isNameChar c = true) :
    tokensFrom collected position (cs ++ rest) =
      tokensFrom (cs.reverse ++ collected) (position + cs.length) rest := by
  induction cs generalizing collected position with
  | nil => rfl
  | cons c cs ih =>
    have others : ∀ other ∈ cs, isNameChar other = true := by
      intro other among
      exact named other (List.mem_cons_of_mem _ among)
    simp only [List.cons_append, tokensFrom, named c List.mem_cons_self, if_true]
    rw [ih (c :: collected) (position + 1) others]
    simp only [List.reverse_cons, List.append_assoc, List.singleton_append, List.length_cons]
    congr 1
    omega

/-- A word ends where the text does not go on with it. -/
theorem tokensFrom_of_apart (collected : List Char) (position : Nat) (apart : Apart rest) :
    tokensFrom collected position rest =
      closeWord collected position ++ tokensFrom [] position rest := by
  cases rest with
  | nil => simp [tokensFrom, closeWord]
  | cons c cs =>
    have ends : isNameChar c = false := apart c rfl
    simp [tokensFrom, ends, closeWord]

theorem lex_word (nonempty : cs ≠ []) (named : ∀ c ∈ cs, isNameChar c = true)
    (apart : Apart rest) : lex (cs ++ rest) = .word (String.ofList cs) :: lex rest := by
  have collected : cs.reverse.isEmpty = false := by simpa using nonempty
  rw [lex, tokens, tokensFrom_append [] 0 named, tokensFrom_of_apart _ _ apart, List.append_nil,
    closeWord, if_neg (by rw [collected]; exact Bool.false_ne_true), List.reverse_reverse,
    List.singleton_append, List.map_cons, map_token_tokensFrom [] _ 0]
  rfl

theorem lex_append (apart : Apart rest) : lex (cs ++ rest) = lex cs ++ lex rest := by
  have general (collected : List Char) (position : Nat) :
      (tokensFrom collected position (cs ++ rest)).map (·.token) =
        (tokensFrom collected position cs).map (·.token) ++ lex rest := by
    induction cs generalizing collected position with
    | nil =>
      rw [List.nil_append, tokensFrom_of_apart collected position apart, List.map_append,
        map_token_tokensFrom [] position 0]
      rfl
    | cons c cs ih =>
      simp only [List.cons_append, tokensFrom]
      split
      · exact ih (c :: collected) (position + 1)
      · rw [List.map_append, List.map_append, List.append_assoc]
        split
        · rw [ih [] (position + 1)]
        · rw [List.map_cons, List.map_cons, ih [] (position + 1), List.cons_append]
  exact general [] 0

/-! ### Lexemes -/

theorem apart_nil : Apart [] := by
  intro c first
  cases first

theorem apart_cons (other : isNameChar c = false) : Apart (c :: cs) := by
  intro first isFirst
  cases isFirst
  exact other

theorem Lexeme.apart (spelled : Lexeme (c :: cs) text) (other : isNameChar c = false) :
    Apart (text ++ rest) := by
  rcases spelled with ⟨blanks, blank, rfl⟩
  cases blanks with
  | nil => exact apart_cons other
  | cons first blanks => exact apart_cons (isNameChar_of_isBlank (blank first List.mem_cons_self))

theorem Lexeme.lex_mark (spelled : Lexeme [c] text) (other : isNameChar c = false)
    (visible : Text.isBlank c = false) : lex (text ++ rest) = .mark c :: lex rest := by
  rcases spelled with ⟨blanks, blank, rfl⟩
  rw [List.append_assoc, lex_blanks blank, List.singleton_append,
    TypeExpr.lex_mark other visible]

theorem Lexeme.lex_word {word : Word} (spelled : Lexeme word.text.toList text)
    (apart : Apart rest) : lex (text ++ rest) = .word word.text :: lex rest := by
  rcases spelled with ⟨blanks, blank, rfl⟩
  rw [List.append_assoc, lex_blanks blank, TypeExpr.lex_word word.isWord.nonempty word.isWord.named
    apart,
    String.ofList_toList]

/-! ### What spells given tokens -/

def Token.chars : Token → List Char
  | .word text => text.toList
  | .mark symbol => [symbol]

/-- Whether a token may come from a text. -/
def Token.Legal : Token → Prop
  | .word text => IsWord text
  | .mark symbol => isNameChar symbol = false ∧ Text.isBlank symbol = false

/-- Whether a token ends where other characters follow, as a word does that they do not go on with. -/
def Token.Ends : Token → List Char → Prop
  | .word _, rest => Apart rest
  | .mark _, _ => True

theorem Token.Legal.chars_ne_nil (legal : token.Legal) : token.chars ≠ [] := by
  cases token with
  | word text => exact legal.nonempty
  | mark symbol => exact List.cons_ne_nil symbol []

/-- Only the first of the characters that follow a token matters for its end. -/
theorem Token.Ends.of_head? {other : List Char} (ends : token.Ends rest)
    (same : ∀ c ∈ other.head?, c ∈ rest.head?) : token.Ends other := by
  cases token with
  | word text => exact fun c first => ends c (same c first)
  | mark symbol => trivial

theorem tokensFrom_chars (position : Nat) (legal : token.Legal) (ends : token.Ends rest) :
    tokensFrom [] position (token.chars ++ rest) =
      ⟨token, position⟩ :: tokensFrom [] (position + token.chars.length) rest := by
  cases token with
  | word text =>
    have collected : text.toList.reverse.isEmpty = false := by simpa using legal.nonempty
    rw [Token.chars, tokensFrom_append [] position legal.named, tokensFrom_of_apart _ _ ends,
      List.append_nil, closeWord, if_neg (by rw [collected]; exact Bool.false_ne_true),
      List.reverse_reverse, String.ofList_toList, List.length_reverse, Nat.add_sub_cancel]
    rfl
  | mark symbol =>
    simp only [Token.chars, List.singleton_append, tokensFrom, legal.1, legal.2, closeWord,
      List.isEmpty_nil, if_true, Bool.false_eq_true, if_false, List.nil_append,
      List.length_singleton]

theorem lex_chars (legal : token.Legal) (ends : token.Ends rest) :
    lex (token.chars ++ rest) = token :: lex rest := by
  rw [lex, tokens, tokensFrom_chars 0 legal ends, List.map_cons, map_token_tokensFrom [] _ 0]
  rfl

theorem exists_word (cs : List Char) (named : isNameChar c = true) :
    ∃ (token : Token) (behind : List Char), token.Legal ∧ token.Ends behind ∧
      c :: cs = token.chars ++ behind := by
  have whole : (c :: cs).takeWhile isNameChar ++ (c :: cs).dropWhile isNameChar = c :: cs :=
    List.takeWhile_append_dropWhile
  refine ⟨.word (String.ofList ((c :: cs).takeWhile isNameChar)), (c :: cs).dropWhile isNameChar,
    ?_, ?_, ?_⟩
  · constructor <;> rw [String.toList_ofList]
    · simp [named]
    · exact fun other among => List.mem_takeWhile_imp among
  · intro first isFirst
    have ends := List.head?_dropWhile_not isNameChar (c :: cs)
    rw [Option.mem_def.mp isFirst] at ends
    simpa using ends
  · rw [Token.chars, String.toList_ofList, whole]

/-- A text that is not blank begins with a token. -/
theorem exists_token (cs : List Char) :
    (∀ c ∈ cs, Text.isBlank c = true) ∨
      ∃ (blanks : List Char) (token : Token) (behind : List Char),
        (∀ c ∈ blanks, Text.isBlank c = true) ∧ token.Legal ∧ token.Ends behind ∧
          cs = blanks ++ (token.chars ++ behind) := by
  induction cs with
  | nil => exact Or.inl (by simp)
  | cons c cs ih =>
    by_cases blank : Text.isBlank c = true
    · rcases ih with allBlank | ⟨blanks, token, behind, areBlank, legal, ends, rfl⟩
      · exact Or.inl (List.forall_mem_cons.mpr ⟨blank, allBlank⟩)
      · exact Or.inr ⟨c :: blanks, token, behind, List.forall_mem_cons.mpr ⟨blank, areBlank⟩,
          legal, ends, rfl⟩
    · right
      by_cases named : isNameChar c = true
      · rcases exists_word cs named with ⟨token, behind, legal, ends, whole⟩
        exact ⟨[], token, behind, by simp, legal, ends, whole⟩
      · rw [Bool.not_eq_true] at blank named
        exact ⟨[], .mark c, cs, by simp, ⟨named, blank⟩, trivial, rfl⟩

theorem isBlank_of_lex_eq_nil (lexed : lex cs = []) : ∀ c ∈ cs, Text.isBlank c = true := by
  rcases exists_token cs with blank | ⟨blanks, token, behind, areBlank, legal, ends, rfl⟩
  · exact blank
  · rw [lex_blanks areBlank, lex_chars legal ends] at lexed
    cases lexed

theorem exists_lexeme_of_lex_eq_cons (lexed : lex cs = token :: ts) :
    token.Legal ∧ ∃ before behind, cs = before ++ behind ∧ Lexeme token.chars before ∧
      lex behind = ts := by
  rcases exists_token cs with blank | ⟨blanks, other, behind, areBlank, legal, ends, rfl⟩
  · rw [← List.append_nil cs, lex_blanks blank] at lexed
    cases lexed
  · rw [lex_blanks areBlank, lex_chars legal ends] at lexed
    cases lexed
    exact ⟨legal, _, behind, (List.append_assoc ..).symm, ⟨blanks, areBlank, rfl⟩, rfl⟩

/-- The tokens of a text may come from one, and are made of its characters. -/
theorem legal_of_mem_lex (among : token ∈ lex cs) :
    token.Legal ∧ ∀ c ∈ token.chars, c ∈ cs := by
  generalize lexed : lex cs = ts at among
  induction ts generalizing cs with
  | nil => cases among
  | cons first ts ih =>
    rcases exists_lexeme_of_lex_eq_cons lexed with
      ⟨legal, _, behind, rfl, ⟨blanks, -, rfl⟩, others⟩
    rcases List.mem_cons.mp among with rfl | later
    · refine ⟨legal, ?_⟩
      intro c own
      exact List.mem_append_left _ (List.mem_append_right _ own)
    · refine ⟨(ih others later).1, ?_⟩
      intro c own
      exact List.mem_append_right _ ((ih others later).2 c own)

end ClientGen.TypeExpr

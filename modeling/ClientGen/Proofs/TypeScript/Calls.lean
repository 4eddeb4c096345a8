import ClientGen.Proofs.Decimal.Style
import ClientGen.Proofs.TypeScript.Classes
import ClientGen.Proofs.TypeScript.Sense

/-!
# What is called in the text of code

A name is called in a text where a parenthesis or a dot follows it, unless it is itself the name of
a member or of what is constructed. The code of wrappers marks the helpers that it calls. These
marks are what brings helpers into a module, but it is the text that has to run: the helpers that are
called in the text of a property's code are those that are marked in it, and no others.

Names are taken to be identifiers, or else anything could be called in them. Types and numbers are
texts of many forms, but nothing in them is a call of a helper, wherever they stand between marks.
-/

namespace ClientGen.TypeScript

open Code

/-! ### Calls in tokens -/

/-- Whether some tokens make a call or an access of the name in front of them. -/
def goesOn (tokens : List TypeToken) : Bool :=
  tokens.head? == some (.mark '(') || tokens.head? == some (.mark '.')

/-- The names that are called in some tokens. The first one only is if it is free, and so not the
name of a member or of what is constructed. -/
def calledIn : (free : Bool) → List TypeToken → List String
  | _, [] => []
  | free, .word name :: tokens =>
    (if free && goesOn tokens then [name] else []) ++ calledIn (name != "new") tokens
  | _, .mark c :: tokens => calledIn (c != '.') tokens

/-- The tokens of some code. -/
def Code.tokens (code : Code) : List TypeToken :=
  lex code.spell.toList

/-- The names that are called in the text of some code. -/
def Code.called (code : Code) : List String :=
  calledIn true code.tokens

variable {free : Bool} {front rest tokens : List TypeToken} {c : Char} {name : String}

theorem goesOn_append (given : front ≠ []) : goesOn (front ++ rest) = goesOn front := by
  cases front with
  | nil => exact absurd rfl given
  | cons token front => rfl

/-- Behind a mark that makes no call, it makes no difference what stands in front of it. -/
theorem calledIn_append_mark (silent : goesOn [.mark c] = false) :
    calledIn free (front ++ .mark c :: rest) = calledIn free front ++ calledIn true rest := by
  have free' : (c != '.') = true := by
    rw [bne_iff_ne]
    rintro rfl
    cases silent
  have stops : goesOn (.mark c :: rest) = false := by
    rw [← silent]
    exact goesOn_append (List.cons_ne_nil (.mark c) [])
  induction front generalizing free with
  | nil => exact congrArg (calledIn · rest) free'
  | cons token front ih =>
    cases token with
    | word name =>
      have same : goesOn (front ++ .mark c :: rest) = goesOn front := by
        cases front with
        | nil => exact stops
        | cons token front => rfl
      simp only [List.cons_append, calledIn, same, ih, List.append_assoc]
    | mark d => exact ih

theorem word_mem_of_mem_calledIn (called : name ∈ calledIn free tokens) :
    .word name ∈ tokens := by
  induction tokens generalizing free with
  | nil => cases called
  | cons token tokens ih =>
    cases token with
    | mark c => exact List.mem_cons_of_mem _ (ih called)
    | word first =>
      rw [calledIn, List.mem_append] at called
      rcases called with here | later
      · split at here
        · rw [List.mem_singleton.mp here]
          exact List.mem_cons_self
        · cases here
      · exact List.mem_cons_of_mem _ (ih later)

/-! ### Tokens of code -/

/-- Whether no word goes on at the beginning of a text. -/
def beginsApart (text : String) : Bool :=
  text.toList.head?.any fun c => !isIdentifierChar c

/-- Whether a text ends with a mark or a space, and so with no word that could go on. -/
def endsApart (text : String) : Bool :=
  text.toList.getLast?.any fun c => isMark c || c == ' '

variable {text : String} {code other : Code} {fragment : Fragment}

theorem tokens_nil : Code.tokens [] = [] := by
  simp [Code.tokens, spell]

theorem tokens_singleton : Code.tokens [fragment] = lex fragment.spell.toList := by
  simp [Code.tokens, spell]

theorem tokens_append_text (apart : beginsApart text = true) :
    Code.tokens (code ++ .text text :: other) =
      code.tokens ++ Code.tokens (.text text :: other) := by
  have ends : EndsWord (spell (.text text :: other)).toList := by
    rw [spell_cons, String.toList_append]
    rw [beginsApart] at apart
    show EndsWord (text.toList ++ _)
    cases whole : text.toList with
    | nil => simp [whole] at apart
    | cons c cs => simpa [whole] using apart
  rw [Code.tokens, spell_append, String.toList_append, lex_append ends]
  rfl

/-- Tokens can be told one fragment after the other where a text begins that goes on with no word. -/
theorem tokens_cons_text (apart : beginsApart text = true) :
    Code.tokens (fragment :: .text text :: other) =
      lex fragment.spell.toList ++ Code.tokens (.text text :: other) := by
  have whole : Code.tokens ([fragment] ++ .text text :: other) = _ := tokens_append_text apart
  rwa [tokens_singleton] at whole

/-- Tokens can be told one fragment after the other where a text ends with no word that could go
on. -/
theorem tokens_text_cons (apart : endsApart text = true) :
    Code.tokens (.text text :: code) = lex text.toList ++ code.tokens := by
  rw [Code.tokens, spell_cons, String.toList_append]
  show lex (text.toList ++ _) = _
  rw [endsApart, Option.any_eq_true] at apart
  obtain ⟨c, last, isEnd⟩ := apart
  obtain ⟨front, whole⟩ := List.getLast?_eq_some_iff.mp last
  rw [whole, List.append_assoc, List.singleton_append]
  rcases (Bool.or_eq_true _ _).mp isEnd with mark | space
  · rw [lex_append_mark mark, lex_append_mark mark, lex_nil, List.append_assoc]
    rfl
  · obtain rfl := beq_iff_eq.mp space
    rw [lex_append_space, lex_append_space, lex_nil, List.append_nil]
    rfl

/-! ### Texts without calls of helpers -/

/-- Whether no helper is called in some tokens, whatever stands in front of them. -/
def Quiet (tokens : List TypeToken) : Prop :=
  ∀ free (helper : Helper), helper.name ∉ calledIn free tokens

theorem Quiet.append_mark (before : Quiet front) (behind : Quiet rest)
    (silent : goesOn [.mark c] = false) : Quiet (front ++ .mark c :: rest) := by
  intro free helper
  rw [calledIn_append_mark silent, List.mem_append, not_or]
  exact ⟨before free helper, behind true helper⟩

theorem Quiet.mark_cons (quiet : Quiet tokens) : Quiet (.mark c :: tokens) :=
  fun _ helper => quiet (c != '.') helper

theorem quiet_nil : Quiet [] :=
  fun _ _ => List.not_mem_nil

theorem quiet_word : Quiet [.word name] := by
  intro free helper
  simp [calledIn, goesOn]

theorem quiet_nameTokens (home : Home) (name : String) :
    Quiet (nameTokens home.qualifiers name) := by
  intro free helper
  cases home <;> cases free <;> cases helper <;>
    simp [Home.qualifiers, nameTokens, calledIn, goesOn, Helper.name]

/-- Whether a leaf of a type has an identifier for a name. A gap has no text. -/
def ClientType.IsNamed : ClientType → Prop
  | .word name | .named _ name => IsIdentifier name
  | _ => True

namespace ClientType

mutual

theorem quiet_chars : ∀ type : ClientType, type.MadeOf IsNamed → Quiet (lex type.chars)
  | .word name, made => by
    have identifier : IsIdentifier name := by simpa [MadeOf, leaves, IsNamed] using made
    show Quiet (lex name.toList)
    rw [identifier.lex]
    exact quiet_word
  | .named home name, made => by
    have identifier : IsIdentifier name := by simpa [MadeOf, leaves, IsNamed] using made
    rw [lex_named home identifier]
    exact quiet_nameTokens home name
  | .gap failure, _ => by
    show Quiet (lex [])
    rw [lex_nil]
    exact quiet_nil
  | .apply head arguments, made => by
    rw [MadeOf, leaves, List.forall_mem_append] at made
    rw [chars_apply, lex_append_mark (by decide), lex_append_mark (by decide), lex_nil]
    exact (quiet_chars head made.1).append_mark
      ((quiet_arguments arguments made.2).append_mark quiet_nil (by decide)) (by decide)
  | .array element, made => by
    have inside := quiet_chars element made
    rw [chars_array]
    split
    · rw [lex_mark (by decide), lex_append_mark (by decide), lex_mark (by decide),
        lex_mark (by decide), lex_nil]
      exact (inside.append_mark quiet_nil.mark_cons.mark_cons (by decide)).mark_cons
    · rw [lex_append_mark (by decide), lex_mark (by decide), lex_nil]
      exact inside.append_mark quiet_nil.mark_cons (by decide)
  | .dictionary value, made => by
    have key : IsIdentifier "key" := ⟨by decide, by decide⟩
    have string : IsIdentifier "string" := ⟨by decide, by decide⟩
    rw [chars_dictionary]
    show Quiet (lex ('\x7b' :: ' ' :: '[' :: ("key".toList ++ ':' :: ' ' ::
      ("string".toList ++ ']' :: ':' :: ' ' :: (value.chars ++ ' ' :: '\x7d' :: [])))))
    simp (disch := decide) only [lex_mark, lex_append_mark, lex_space, lex_append_space, lex_nil,
      key.lex, string.lex]
    have inside : Quiet (.mark ':' :: (lex value.chars ++ [.mark '\x7d'])) :=
      ((quiet_chars value made).append_mark quiet_nil (by decide)).mark_cons
    exact (quiet_word.append_mark (quiet_word.append_mark inside (by decide))
      (by decide)).mark_cons.mark_cons
  | .union alternatives, made => by
    rw [chars_union]
    exact quiet_alternatives alternatives made
  | .orNull type, made => by
    have null : IsIdentifier "null" := ⟨by decide, by decide⟩
    rw [chars_orNull, lex_append_bar, null.lex]
    exact (quiet_chars type made).append_mark quiet_word (by decide)

theorem quiet_arguments : ∀ types : List ClientType, (∀ leaf ∈ leavesOfAll types, leaf.IsNamed) →
    Quiet (lex (", ".toList.intercalate (charsOfAll types)))
  | [], _ => by simpa [charsOfAll] using quiet_nil
  | type :: types, made => by
    rw [leavesOfAll, List.forall_mem_append] at made
    have first := quiet_chars type made.1
    have others := quiet_arguments types made.2
    cases types with
    | nil => simpa [charsOfAll] using first
    | cons next types =>
      rw [charsOfAll, charsOfAll, List.intercalate_cons_cons, List.append_assoc]
      show Quiet (lex (type.chars ++ ',' :: ' ' :: _))
      rw [lex_append_mark (by decide), lex_space]
      exact first.append_mark others (by decide)

theorem quiet_alternatives :
    ∀ types : List ClientType, (∀ leaf ∈ leavesOfAll types, leaf.IsNamed) →
      Quiet (lex (bar.intercalate (charsOfAll types)))
  | [], _ => by simpa [charsOfAll] using quiet_nil
  | type :: types, made => by
    rw [leavesOfAll, List.forall_mem_append] at made
    have first := quiet_chars type made.1
    have others := quiet_alternatives types made.2
    cases types with
    | nil => simpa [charsOfAll] using first
    | cons next types =>
      rw [charsOfAll, charsOfAll, List.intercalate_cons_cons, List.append_assoc, lex_append_bar]
      exact first.append_mark others (by decide)

end

end ClientType

/-! ### Numbers -/

theorem mem_of_mem_lexFrom {word cs : List Char} {d : Char} (among : .word name ∈ lexFrom word cs)
    (inside : d ∈ name.toList) : d ∈ word ++ cs := by
  have closed {word : List Char} (isWord : TypeToken.word name ∈ closeWord word) : d ∈ word := by
    unfold closeWord at isWord
    split at isWord
    · cases isWord
    · rw [List.mem_singleton, TypeToken.word.injEq] at isWord
      simpa [isWord] using inside
  induction cs generalizing word with
  | nil => simpa using closed among
  | cons c cs ih =>
    simp only [lexFrom] at among
    split at among
    · simpa using ih among
    split at among
    · rcases List.mem_append.mp among with here | later
      · exact List.mem_append_left _ (closed here)
      · exact List.mem_append_right _ (List.mem_cons_of_mem _ (by simpa using ih later))
    · rcases List.mem_append.mp among with here | later
      · exact List.mem_append_left _ (closed here)
      · have behind : TypeToken.word name ∈ lexFrom [] cs := by simpa using later
        exact List.mem_append_right _ (List.mem_cons_of_mem _ (by simpa using ih behind))

/-- Letters of which there is one in the name of every helper and none in a number. -/
def helperLetters : List Char :=
  ['t', 'r', 'd', 'v', 'l']

theorem quiet_of_letters {cs : List Char} (others : ∀ c ∈ cs, c ∉ helperLetters) :
    Quiet (lex cs) := by
  intro free helper called
  have hasLetter : ∃ c ∈ helper.name.toList, c ∈ helperLetters := by
    cases helper <;> simp [Helper.name, helperLetters]
  obtain ⟨c, inside, isLetter⟩ := hasLetter
  have among := word_mem_of_mem_calledIn called
  rw [lex] at among
  exact others c (by simpa using mem_of_mem_lexFrom among inside) isLetter

theorem notMem_helperLetters_of_isDigit (digit : c.isDigit = true) : c ∉ helperLetters := by
  have ofDigits : Text.digits.all (fun c => decide (c ∉ helperLetters)) = true := by decide
  exact of_decide_eq_true (List.all_eq_true.mp ofDigits c (Text.mem_digits_of_isDigit digit))

theorem quiet_number (x : Float) : Quiet (lex (numberStyle.spell x).toList) :=
  quiet_of_letters (Decimal.forall_mem_spell (fun _ => notMem_helperLetters_of_isDigit)
    (by simp [helperLetters]) (by simp [numberStyle, helperLetters]) x)

theorem quiet_length (number : Nat) : Quiet (lex (toString number).toList) :=
  quiet_of_letters fun _ among =>
    notMem_helperLetters_of_isDigit (Text.isDigit_of_mem_toString among)

end ClientGen.TypeScript

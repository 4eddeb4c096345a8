import ClientGen.Text.Blank
import ClientGen.Text.Word

/-!
# The grammar of types in a client

What a TypeScript compiler reads in the text of a type, for the types that clients use: names with
their qualifiers and arguments, arrays, objects with values under any keys, parentheses and unions.
Brackets bind tighter than bars, so an operand of a union is a primary type with brackets behind it;
braces, angle brackets and parentheses enclose whole types.

What is read is a list of alternatives, of which a type that is no union has one. A union of unions
has the alternatives of all of them, and parentheses leave no trace.

The grammar says which tokens are read as what. It is not ambiguous, because it can be followed from
left to right with one token of lookahead. `readType` does so, and finds what the grammar allows.
-/

namespace ClientGen.TypeScript

/-! ### Tokens -/

/-- A token of a type. -/
inductive TypeToken where
  | word (text : String)
  | mark (c : Char)
  deriving DecidableEq

/-- Whether a character may stand in an identifier. -/
def isIdentifierChar (c : Char) : Bool :=
  Text.isWord c || c == '$'

/-- Whether a character is a token of its own. -/
def isMark (c : Char) : Bool :=
  !isIdentifierChar c && !Text.isBlank c

/-- The word that is made of some characters, if there are any. -/
def closeWord (word : List Char) : List TypeToken :=
  if word.isEmpty then [] else [.word (String.ofList word)]

/-- The tokens of some characters behind those of a word that is not finished. -/
def lexFrom (word : List Char) : List Char → List TypeToken
  | [] => closeWord word
  | c :: cs =>
    if isIdentifierChar c then lexFrom (word ++ [c]) cs
    else if Text.isBlank c then closeWord word ++ lexFrom [] cs
    else closeWord word ++ .mark c :: lexFrom [] cs

/-- The tokens of some characters. -/
@[irreducible]
def lex (cs : List Char) : List TypeToken :=
  lexFrom [] cs

/-- Whether a text is an identifier: a run of its characters, of which there is at least one. -/
structure IsIdentifier (text : String) : Prop where
  nonempty : text.toList ≠ []
  named : text.toList.all isIdentifierChar = true

/-- Whether some characters do not go on with a word. -/
def EndsWord (cs : List Char) : Prop :=
  ∀ c ∈ cs.head?, isIdentifierChar c = false

variable {c : Char} {cs word behind : List Char}

@[simp]
theorem endsWord_cons : EndsWord (c :: cs) ↔ isIdentifierChar c = false := by
  simp [EndsWord]

@[simp]
theorem lex_nil : lex [] = [] := by
  rw [lex]
  rfl

theorem isIdentifierChar_of_isMark (mark : isMark c = true) : isIdentifierChar c = false := by
  rw [isMark, Bool.and_eq_true, Bool.not_eq_true'] at mark
  exact mark.1

theorem lex_mark (mark : isMark c = true) : lex (c :: cs) = .mark c :: lex cs := by
  rw [isMark, Bool.and_eq_true, Bool.not_eq_true', Bool.not_eq_true'] at mark
  simp [lex, lexFrom, mark.1, mark.2, closeWord]

theorem lex_space : lex (' ' :: cs) = lex cs := by
  have other : isIdentifierChar ' ' = false := by decide
  have blank : Text.isBlank ' ' = true := by decide
  simp [lex, lexFrom, other, blank, closeWord]

theorem lexFrom_of_endsWord (ends : EndsWord behind) :
    lexFrom word behind = closeWord word ++ lex behind := by
  cases behind with
  | nil => simp [lexFrom]
  | cons c cs =>
    rw [endsWord_cons] at ends
    simp only [lex, lexFrom, ends, Bool.false_eq_true, if_false]
    split <;> simp [closeWord]

theorem lexFrom_append (ends : EndsWord behind) :
    lexFrom word (cs ++ behind) = lexFrom word cs ++ lex behind := by
  induction cs generalizing word with
  | nil => exact lexFrom_of_endsWord ends
  | cons c cs ih =>
    simp only [List.cons_append, lexFrom, ih]
    split
    · rfl
    · split <;> simp

/-- Tokens can be told one after the other where no word goes on. -/
theorem lex_append (ends : EndsWord behind) : lex (cs ++ behind) = lex cs ++ lex behind := by
  rw [lex, lexFrom_append ends, ← lex]

theorem lex_append_mark (mark : isMark c = true) :
    lex (cs ++ c :: behind) = lex cs ++ .mark c :: lex behind := by
  rw [lex_append (endsWord_cons.mpr (isIdentifierChar_of_isMark mark)), lex_mark mark]

theorem lex_append_space : lex (cs ++ ' ' :: behind) = lex cs ++ lex behind := by
  rw [lex_append (endsWord_cons.mpr (by decide)), lex_space]

theorem lexFrom_of_named (named : cs.all isIdentifierChar = true) :
    lexFrom word cs = closeWord (word ++ cs) := by
  induction cs generalizing word with
  | nil => simp [lexFrom]
  | cons c cs ih =>
    rw [List.all_cons, Bool.and_eq_true] at named
    rw [lexFrom, if_pos named.1, ih named.2, List.append_assoc, List.singleton_append]

theorem IsIdentifier.lex {text : String} (identifier : IsIdentifier text) :
    lex text.toList = [.word text] := by
  rw [TypeScript.lex, lexFrom_of_named identifier.named, List.nil_append, closeWord,
    if_neg (by simpa using identifier.nonempty), String.ofList_toList]

/-! ### What is read -/

/-- An alternative of a type. A type is the list of its alternatives. -/
inductive Alternative where
  /-- What a name behind its qualifiers stands for, applied to arguments if there are any. -/
  | name (qualifiers : List String) (name : String) (arguments : List (List Alternative))
  | array (element : List Alternative)
  /-- An object with values of one type under any keys. -/
  | dictionary (value : List Alternative)

/-- The tokens of a name behind its qualifiers. -/
def nameTokens (qualifiers : List String) (name : String) : List TypeToken :=
  qualifiers.flatMap (fun qualifier => [.word qualifier, .mark '.']) ++ [.word name]

mutual

/-- Whether some tokens are read as a type: operands with bars between them. -/
inductive ReadAsType : List TypeToken → List Alternative → Prop
  | operand {tokens sense} (read : ReadAsOperand tokens sense) : ReadAsType tokens sense
  | union {first others sense senses} (read : ReadAsOperand first sense)
    (rest : ReadAsType others senses) :
    ReadAsType (first ++ .mark '|' :: others) (sense ++ senses)

/-- Whether some tokens are read as an operand: a primary type with brackets behind it. -/
inductive ReadAsOperand : List TypeToken → List Alternative → Prop
  | primary {tokens sense} (read : ReadAsPrimary tokens sense) : ReadAsOperand tokens sense
  | array {tokens sense} (read : ReadAsOperand tokens sense) :
    ReadAsOperand (tokens ++ [.mark '[', .mark ']']) [.array sense]

/-- Whether some tokens are read as a primary type: a name, or something that is enclosed. -/
inductive ReadAsPrimary : List TypeToken → List Alternative → Prop
  | name (qualifiers : List String) (name : String) :
    ReadAsPrimary (nameTokens qualifiers name) [.name qualifiers name []]
  | apply (qualifiers : List String) (name : String) {tokens senses}
    (read : ReadAsArguments tokens senses) :
    ReadAsPrimary (nameTokens qualifiers name ++ .mark '<' :: (tokens ++ [.mark '>']))
      [.name qualifiers name senses]
  | dictionary (key : String) {tokens sense} (read : ReadAsType tokens sense) :
    ReadAsPrimary
      (.mark '\x7b' :: .mark '[' :: .word key :: .mark ':' :: .word "string" :: .mark ']' ::
        .mark ':' :: (tokens ++ [.mark '\x7d']))
      [.dictionary sense]
  | parentheses {tokens sense} (read : ReadAsType tokens sense) :
    ReadAsPrimary (.mark '(' :: (tokens ++ [.mark ')'])) sense

/-- Whether some tokens are read as arguments: types with commas between them. -/
inductive ReadAsArguments : List TypeToken → List (List Alternative) → Prop
  | last {tokens sense} (read : ReadAsType tokens sense) : ReadAsArguments tokens [sense]
  | cons {first others sense senses} (read : ReadAsType first sense)
    (rest : ReadAsArguments others senses) :
    ReadAsArguments (first ++ .mark ',' :: others) (sense :: senses)

end

/-- A union of types, not only of operands. -/
theorem ReadAsType.append : ∀ {first sense}, ReadAsType first sense →
    ∀ {others senses}, ReadAsType others senses →
      ReadAsType (first ++ .mark '|' :: others) (sense ++ senses)
  | _, _, .operand read, _, _, rest => .union read rest
  | _, _, .union head tail, _, _, rest => by
    rw [List.append_assoc, List.cons_append, List.append_assoc]
    exact .union head (tail.append rest)

/-! ### Reading from left to right -/

/-- The pairs of brackets at the beginning of some tokens make arrays of what stands before them. -/
def readBrackets (sense : List Alternative) :
    List TypeToken → List Alternative × List TypeToken
  | .mark '[' :: .mark ']' :: tokens => readBrackets [.array sense] tokens
  | tokens => (sense, tokens)

/-- The name that begins with a word. -/
def readName (word : String) : List TypeToken → List String × String × List TypeToken
  | .mark '.' :: .word next :: tokens =>
    let (qualifiers, name, rest) := readName next tokens
    (word :: qualifiers, name, rest)
  | tokens => ([], word, tokens)

/-- The tokens behind a key that stands for all keys. -/
def readKey? : List TypeToken → Option (List TypeToken)
  | .mark '[' :: .word _ :: .mark ':' :: .word type :: .mark ']' :: .mark ':' :: tokens =>
    if type = "string" then some tokens else none
  | _ => none

mutual

/-- The type at the beginning of some tokens and the tokens behind it. -/
def readType : Nat → List TypeToken → Option (List Alternative × List TypeToken)
  | 0, _ => none
  | bound + 1, tokens => do
    let (primary, rest) ← readPrimary bound tokens
    match readBrackets primary rest with
    | (sense, .mark '|' :: rest) =>
      let (senses, rest) ← readType bound rest
      some (sense ++ senses, rest)
    | found => some found

/-- The primary type at the beginning of some tokens. -/
def readPrimary : Nat → List TypeToken → Option (List Alternative × List TypeToken)
  | 0, _ => none
  | bound + 1, .mark '(' :: tokens => do
    match ← readType bound tokens with
    | (sense, .mark ')' :: rest) => some (sense, rest)
    | _ => none
  | bound + 1, .mark '\x7b' :: tokens => do
    match ← readType bound (← readKey? tokens) with
    | (sense, .mark '\x7d' :: rest) => some ([.dictionary sense], rest)
    | _ => none
  | bound + 1, .word word :: tokens =>
    let (qualifiers, name, rest) := readName word tokens
    match rest with
    | .mark '<' :: rest => do
      let (senses, rest) ← readArguments bound rest
      some ([.name qualifiers name senses], rest)
    | _ => some ([.name qualifiers name []], rest)
  | _ + 1, _ => none

/-- The arguments at the beginning of some tokens, with the bracket that ends them. -/
def readArguments : Nat → List TypeToken → Option (List (List Alternative) × List TypeToken)
  | 0, _ => none
  | bound + 1, tokens => do
    match ← readType bound tokens with
    | (sense, .mark ',' :: rest) =>
      let (senses, rest) ← readArguments bound rest
      some (sense :: senses, rest)
    | (sense, .mark '>' :: rest) => some ([sense], rest)
    | _ => none

end

/-- Whether the next token, if there is one, is among some marks. -/
def Next (marks : List Char) (tokens : List TypeToken) : Prop :=
  ∀ token ∈ tokens.head?, ∃ c ∈ marks, token = .mark c

/-- What may stand behind a type. -/
def closers : List Char :=
  [')', '\x7d', ',', '>']

variable {bound : Nat} {tokens rest : List TypeToken} {sense : List Alternative}
  {senses : List (List Alternative)} {marks : List Char}

theorem next_nil : Next marks [] := by
  simp [Next]

theorem next_cons (among : c ∈ marks) : Next marks (.mark c :: tokens) := by
  simp [Next, among]

theorem Next.mono {others : List Char} (next : Next marks tokens) (subset : marks ⊆ others) :
    Next others tokens := by
  intro token isNext
  rcases next token isNext with ⟨c, among, same⟩
  exact ⟨c, subset among, same⟩

theorem Next.ne (next : Next marks (.mark c :: tokens)) (absent : c ∉ marks) : False := by
  rcases next (.mark c) rfl with ⟨other, among, same⟩
  cases same
  exact absent among

theorem readBrackets_of_next (next : Next marks tokens) (absent : '[' ∉ marks) :
    readBrackets sense tokens = (sense, tokens) := by
  unfold readBrackets
  split
  · exact (next.ne absent).elim
  · rfl

theorem readName_of_next {word : String} (next : Next marks tokens) (absent : '.' ∉ marks) :
    readName word tokens = ([], word, tokens) := by
  unfold readName
  split
  · exact (next.ne absent).elim
  · rfl

theorem exists_nameTokens (qualifiers : List String) (name : String) :
    ∃ word others, nameTokens qualifiers name = .word word :: others ∧
      ∀ marks rest, Next marks rest → '.' ∉ marks →
        readName word (others ++ rest) = (qualifiers, name, rest) := by
  induction qualifiers with
  | nil =>
    refine ⟨name, [], rfl, ?_⟩
    intro marks rest next absent
    exact readName_of_next next absent
  | cons qualifier qualifiers ih =>
    rcases ih with ⟨word, others, same, found⟩
    refine ⟨qualifier, .mark '.' :: .word word :: others, ?_, ?_⟩
    · rw [← same]
      rfl
    · intro marks rest next absent
      simp only [List.cons_append, readName, found marks rest next absent]

/-! Whether the reader finds what the grammar allows, whatever stands behind it. -/

def TypeFound (tokens : List TypeToken) (sense : List Alternative) : Prop :=
  ∀ bound rest, 2 * tokens.length + 2 ≤ bound → Next closers rest →
    readType bound (tokens ++ rest) = some (sense, rest)

/-- Behind an operand there are the same brackets to read, and the same tokens behind them, as
behind the primary type that it begins with. -/
def OperandFound (tokens : List TypeToken) (sense : List Alternative) : Prop :=
  ∀ bound rest, 2 * tokens.length + 1 ≤ bound → Next ('|' :: '[' :: closers) rest →
    ∃ primary behind, readPrimary bound (tokens ++ rest) = some (primary, behind) ∧
      readBrackets primary behind = readBrackets sense rest

def PrimaryFound (tokens : List TypeToken) (sense : List Alternative) : Prop :=
  ∀ bound rest, 2 * tokens.length + 1 ≤ bound → Next ('|' :: '[' :: closers) rest →
    readPrimary bound (tokens ++ rest) = some (sense, rest)

def ArgumentsFound (tokens : List TypeToken) (senses : List (List Alternative)) : Prop :=
  ∀ bound rest, 2 * tokens.length + 3 ≤ bound →
    readArguments bound (tokens ++ .mark '>' :: rest) = some (senses, rest)

variable {first others inner : List TypeToken} {alternatives : List Alternative}

theorem OperandFound.type (operand : OperandFound tokens sense) : TypeFound tokens sense := by
  rintro (_ | bound) rest enough next
  · omega
  rcases operand bound rest (by omega) (next.mono (by decide)) with
    ⟨primary, behind, found, brackets⟩
  rw [readBrackets_of_next next (by decide)] at brackets
  simp only [readType, found, brackets, Option.bind_eq_bind, Option.bind_some]
  split
  · next same =>
    cases same
    exact (next.ne (by decide)).elim
  · rfl

theorem OperandFound.union (operand : OperandFound first sense)
    (tail : TypeFound others alternatives) :
    TypeFound (first ++ .mark '|' :: others) (sense ++ alternatives) := by
  rintro (_ | bound) rest enough next
  · omega
  rw [List.length_append, List.length_cons] at enough
  rw [List.append_assoc, List.cons_append]
  rcases operand bound (.mark '|' :: (others ++ rest)) (by omega) (next_cons (by decide)) with
    ⟨primary, behind, found, brackets⟩
  have bar : Next ['|'] (.mark '|' :: (others ++ rest)) := next_cons (by decide)
  rw [readBrackets_of_next bar (by decide)] at brackets
  have tailFound := tail bound rest (by omega) next
  simp only [readType, found, brackets, tailFound, Option.bind_eq_bind, Option.bind_some]

theorem PrimaryFound.operand (primary : PrimaryFound tokens sense) :
    OperandFound tokens sense := by
  intro bound rest enough next
  exact ⟨sense, rest, primary bound rest enough next, rfl⟩

theorem OperandFound.array (operand : OperandFound tokens sense) :
    OperandFound (tokens ++ [.mark '[', .mark ']']) [.array sense] := by
  intro bound rest enough _
  rw [List.length_append] at enough
  rw [List.append_assoc]
  exact operand bound _ (by omega) (next_cons (by decide))

theorem primaryFound_name (qualifiers : List String) (name : String) :
    PrimaryFound (nameTokens qualifiers name) [.name qualifiers name []] := by
  rintro (_ | bound) rest enough next
  · omega
  rcases exists_nameTokens qualifiers name with ⟨word, others, same, found⟩
  rw [same, List.cons_append, readPrimary, found _ rest next (by decide)]
  dsimp only
  split
  · exact (next.ne (by decide)).elim
  · rfl

theorem ArgumentsFound.apply (qualifiers : List String) (name : String)
    (arguments : ArgumentsFound inner senses) :
    PrimaryFound (nameTokens qualifiers name ++ .mark '<' :: (inner ++ [.mark '>']))
      [.name qualifiers name senses] := by
  rintro (_ | bound) rest enough _
  · omega
  rcases exists_nameTokens qualifiers name with ⟨word, others, same, found⟩
  simp only [same, List.length_append, List.length_cons] at enough
  have opening : Next ['<'] (.mark '<' :: (inner ++ [.mark '>'] ++ rest)) := next_cons (by decide)
  have argumentsFound := arguments bound rest (by omega)
  rw [List.append_assoc, same, List.cons_append, readPrimary, List.cons_append,
    found _ _ opening (by decide)]
  simp only [List.append_assoc, List.singleton_append, argumentsFound, Option.bind_eq_bind,
    Option.bind_some]

theorem TypeFound.dictionary (key : String) (value : TypeFound inner sense) :
    PrimaryFound
      (.mark '\x7b' :: .mark '[' :: .word key :: .mark ':' :: .word "string" :: .mark ']' ::
        .mark ':' :: (inner ++ [.mark '\x7d']))
      [.dictionary sense] := by
  rintro (_ | bound) rest enough _
  · omega
  simp only [List.length_append, List.length_cons] at enough
  have valueFound := value bound (.mark '\x7d' :: rest) (by omega) (next_cons (by decide))
  simp only [List.append_assoc, List.cons_append, List.nil_append, readPrimary, readKey?, if_true,
    valueFound, Option.bind_eq_bind, Option.bind_some]

theorem TypeFound.parentheses (type : TypeFound inner sense) :
    PrimaryFound (.mark '(' :: (inner ++ [.mark ')'])) sense := by
  rintro (_ | bound) rest enough _
  · omega
  simp only [List.length_append, List.length_cons] at enough
  have typeFound := type bound (.mark ')' :: rest) (by omega) (next_cons (by decide))
  simp only [List.append_assoc, List.cons_append, List.nil_append, readPrimary, typeFound,
    Option.bind_eq_bind, Option.bind_some]

theorem TypeFound.lastArgument (type : TypeFound tokens sense) :
    ArgumentsFound tokens [sense] := by
  rintro (_ | bound) rest enough
  · omega
  have typeFound := type bound (.mark '>' :: rest) (by omega) (next_cons (by decide))
  simp only [readArguments, typeFound, Option.bind_eq_bind, Option.bind_some]

theorem TypeFound.argument (type : TypeFound first sense) (tail : ArgumentsFound others senses) :
    ArgumentsFound (first ++ .mark ',' :: others) (sense :: senses) := by
  rintro (_ | bound) rest enough
  · omega
  simp only [List.length_append, List.length_cons] at enough
  have typeFound := type bound (.mark ',' :: (others ++ .mark '>' :: rest)) (by omega)
    (next_cons (by decide))
  have tailFound := tail bound rest (by omega)
  simp only [List.append_assoc, List.cons_append, readArguments, typeFound, tailFound,
    Option.bind_eq_bind, Option.bind_some]

/-- The reader finds every type of the grammar: one lemma for each of its rules. -/
theorem ReadAsType.found (read : ReadAsType tokens sense) : TypeFound tokens sense :=
  @ReadAsType.rec (fun tokens sense _ => TypeFound tokens sense)
    (fun tokens sense _ => OperandFound tokens sense)
    (fun tokens sense _ => PrimaryFound tokens sense)
    (fun tokens senses _ => ArgumentsFound tokens senses)
    (fun _ operand => operand.type) (fun _ _ operand tail => operand.union tail)
    (fun _ primary => primary.operand) (fun _ operand => operand.array) primaryFound_name
    (fun qualifiers name _ _ _ arguments => arguments.apply qualifiers name)
    (fun key _ _ _ value => value.dictionary key) (fun _ type => type.parentheses)
    (fun _ type => type.lastArgument) (fun _ _ type tail => type.argument tail) tokens sense read

/-- The grammar is not ambiguous. -/
theorem ReadAsType.unique (read : ReadAsType tokens sense)
    (reread : ReadAsType tokens alternatives) : sense = alternatives := by
  have first := read.found _ [] (Nat.le_refl _) next_nil
  have second := reread.found _ [] (Nat.le_refl _) next_nil
  simpa using first.symm.trans second

end ClientGen.TypeScript

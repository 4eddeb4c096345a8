import ClientGen.Proofs.Json.Lexing

/-!
# Tokens of written trees

Indentation does not matter: whatever the level it is written at, a tree has the same tokens. What
they are follows the tree, if the floats in it are spelled as numerals; those that are not finite
are not.
-/

namespace ClientGen.Data.Tree

mutual

/-- The floats in a tree. -/
def reals : Tree → List Float
  | .real value => [value]
  | .list items => realsOfItems items
  | .record fields => realsOfFields fields
  | .variant _ body => body.reals
  | _ => []

/-- The floats in the items of a list. -/
def realsOfItems : List Tree → List Float
  | [] => []
  | item :: items => item.reals ++ realsOfItems items

/-- The floats in the fields of a record. -/
def realsOfFields : List (String × Tree) → List Float
  | [] => []
  | (_, value) :: fields => value.reals ++ realsOfFields fields

end

end ClientGen.Data.Tree

namespace ClientGen.Json

open Data

variable {rest : List Char}

/-- The numeral that a float is spelled as. -/
def realNumeral (value : Float) : Numeral :=
  match tokens (floatStyle.spell value) with
  | [.numeral numeral] => numeral
  | _ => ⟨false, [], none, none⟩

/-- Whether a float is spelled as a numeral. -/
def IsNumeral (value : Float) : Prop :=
  tokens (floatStyle.spell value) = [.numeral (realNumeral value)]

mutual

/-- The tokens of a tree. -/
def tokensOf : Tree → List Token
  | .null => [.null]
  | .bool value => [.bool value]
  | .int value => [.numeral (intNumeral value)]
  | .real value => [.numeral (realNumeral value)]
  | .text value => [.quoted (.ofString value)]
  | .list items => .mark '[' :: tokensOfItems items ++ [.mark ']']
  | .record fields => .mark '\x7b' :: tokensOfFields fields ++ [.mark '\x7d']
  | .variant name body =>
    .mark '\x7b' :: .quoted (.ofString name) :: .mark ':' :: tokensOf body ++ [.mark '\x7d']

/-- The tokens of the items of a list. -/
def tokensOfItems : List Tree → List Token
  | [] => []
  | [item] => tokensOf item
  | item :: items => tokensOf item ++ .mark ',' :: tokensOfItems items

/-- The tokens of the fields of a record. -/
def tokensOfFields : List (String × Tree) → List Token
  | [] => []
  | [(name, value)] => .quoted (.ofString name) :: .mark ':' :: tokensOf value
  | (name, value) :: fields =>
    .quoted (.ofString name) :: .mark ':' :: tokensOf value ++ .mark ',' :: tokensOfFields fields

end

theorem tokensOfItems_cons (item next : Tree) (items : List Tree) :
    tokensOfItems (item :: next :: items) =
      tokensOf item ++ .mark ',' :: tokensOfItems (next :: items) :=
  rfl

theorem tokensOfFields_cons (name : String) (value : Tree) (next : String × Tree)
    (fields : List (String × Tree)) :
    tokensOfFields ((name, value) :: next :: fields) =
      .quoted (.ofString name) :: .mark ':' :: tokensOf value ++
        .mark ',' :: tokensOfFields (next :: fields) :=
  rfl

theorem apart_newLine (level : Nat) (rest : List Char) :
    Apart ((newLine level).toList ++ rest) := by
  intro c first
  have newline : ((newLine level).toList ++ rest).head? = some '\n' := by
    simp [newLine]
  rw [newline] at first
  cases first
  rfl

theorem apart_comma : Apart (',' :: rest) := by
  intro c first
  cases first
  rfl

/-- A name and what stands between it and its value. -/
theorem tokensFrom_name (name : String) :
    tokensFrom .between ((quote name).toList ++ (':' :: ' ' :: rest)) =
      .quoted (.ofString name) :: .mark ':' :: tokensFrom .between rest := by
  have blank : tokensFrom .between ([' '] ++ rest) = tokensFrom .between rest :=
    tokensFrom_blanks [' '] (by simp [isSpace])
  rw [tokensFrom_quote, tokensFrom_mark (by decide), ← blank]
  rfl

mutual

theorem tokensFrom_indented :
    ∀ (level : Nat) (tree : Tree), (∀ x ∈ tree.reals, IsNumeral x) → ∀ {rest}, Apart rest →
      tokensFrom .between ((indented level tree).toList ++ rest) =
        tokensOf tree ++ tokensFrom .between rest
  | level, .null, _, _, _ => by
    rw [indented, tokensFrom_null]
    rfl
  | level, .bool value, _, _, _ => by
    rw [indented, tokensFrom_boolText]
    rfl
  | level, .int value, _, _, apart => by
    rw [indented, tokensFrom_toString value apart]
    rfl
  | level, .real value, numerals, _, apart => by
    have numeral : IsNumeral value := numerals value (by simp [Tree.reals])
    rw [indented, tokensFrom_of_alone numeral apart]
    rfl
  | level, .text value, _, _, _ => by
    rw [indented, tokensFrom_quote]
    rfl
  | level, .list [], _, _, _ => by
    rw [indented]
    rfl
  | level, .list (item :: items), numerals, rest, _ => by
    have inside := tokensFrom_indentedItems (level + 1) (item :: items) numerals
      (apart_newLine level (']' :: rest))
    rw [tokensFrom_newLine, tokensFrom_mark (by decide)] at inside
    simp only [indented, String.toList_append, String.reduceToList, List.append_assoc,
      List.cons_append, List.nil_append]
    rw [tokensFrom_mark (by decide), inside, tokensOf]
    simp
  | level, .record [], _, _, _ => by
    rw [indented]
    rfl
  | level, .record (field :: fields), numerals, rest, _ => by
    have inside := tokensFrom_indentedFields (level + 1) (field :: fields) numerals
      (apart_newLine level ('\x7d' :: rest))
    rw [tokensFrom_newLine, tokensFrom_mark (by decide)] at inside
    simp only [indented, String.toList_append, String.reduceToList, List.append_assoc,
      List.cons_append, List.nil_append]
    rw [tokensFrom_mark (by decide), inside, tokensOf]
    simp
  | level, .variant name body, numerals, rest, _ => by
    have inside := tokensFrom_indented (level + 1) body numerals
      (apart_newLine level ('\x7d' :: rest))
    rw [tokensFrom_newLine, tokensFrom_mark (by decide)] at inside
    simp only [indented, String.toList_append, String.reduceToList, List.append_assoc,
      List.cons_append, List.nil_append]
    rw [tokensFrom_mark (by decide), tokensFrom_newLine, tokensFrom_name, inside, tokensOf]
    simp

theorem tokensFrom_indentedItems :
    ∀ (level : Nat) (items : List Tree), (∀ x ∈ Tree.realsOfItems items, IsNumeral x) →
      ∀ {rest}, Apart rest →
        tokensFrom .between ((indentedItems level items).toList ++ rest) =
          tokensOfItems items ++ tokensFrom .between rest
  | _, [], _, _, _ => rfl
  | level, [item], numerals, rest, apart => by
    rw [Tree.realsOfItems, List.forall_mem_append] at numerals
    simp only [indentedItems, String.toList_append, List.append_assoc]
    rw [tokensFrom_newLine, tokensFrom_indented level item numerals.1 apart, tokensOfItems]
  | level, item :: next :: items, numerals, rest, apart => by
    rw [Tree.realsOfItems, List.forall_mem_append] at numerals
    simp only [indentedItems, String.toList_append, String.reduceToList, List.append_assoc,
      List.cons_append, List.nil_append]
    rw [tokensFrom_newLine, tokensFrom_indented level item numerals.1 apart_comma,
      tokensFrom_mark (by decide), tokensFrom_indentedItems level (next :: items) numerals.2 apart,
      tokensOfItems_cons, List.append_assoc, List.cons_append]

theorem tokensFrom_indentedFields :
    ∀ (level : Nat) (fields : List (String × Tree)),
      (∀ x ∈ Tree.realsOfFields fields, IsNumeral x) → ∀ {rest}, Apart rest →
        tokensFrom .between ((indentedFields level fields).toList ++ rest) =
          tokensOfFields fields ++ tokensFrom .between rest
  | _, [], _, _, _ => rfl
  | level, [(name, value)], numerals, rest, apart => by
    rw [Tree.realsOfFields, List.forall_mem_append] at numerals
    simp only [indentedFields, String.toList_append, String.reduceToList, List.append_assoc,
      List.cons_append, List.nil_append]
    rw [tokensFrom_newLine, tokensFrom_name, tokensFrom_indented level value numerals.1 apart,
      tokensOfFields]
    rfl
  | level, (name, value) :: next :: fields, numerals, rest, apart => by
    rw [Tree.realsOfFields, List.forall_mem_append] at numerals
    simp only [indentedFields, String.toList_append, String.reduceToList, List.append_assoc,
      List.cons_append, List.nil_append]
    rw [tokensFrom_newLine, tokensFrom_name,
      tokensFrom_indented level value numerals.1 apart_comma, tokensFrom_mark (by decide),
      tokensFrom_indentedFields level (next :: fields) numerals.2 apart, tokensOfFields_cons]
    simp only [List.append_assoc, List.cons_append]

end

/-- The tokens of a written tree. -/
theorem tokens_pretty {tree : Tree} (numerals : ∀ x ∈ tree.reals, IsNumeral x) :
    tokens (pretty tree) = tokensOf tree := by
  have whole : tokensFrom .between ((indented 0 tree).toList ++ []) =
      tokensOf tree ++ tokensFrom .between [] :=
    tokensFrom_indented 0 tree numerals (by simp [Apart])
  simpa [tokens, pretty, tokensFrom, Mode.finish] using whole

end ClientGen.Json

import ClientGen.Proofs.TypeExpr.Parsing
import Mathlib.Data.Nat.Digits.Defs

/-!
# Texts of types that were parsed

The text of a type leaves out the mark behind the name of a generic type, because reading the text
puts it back. What is put back is the number of arguments, behind the whole name; but a mark that
stands in a text is kept as it is, wherever it stands and whatever it says. So a type is read back
from its text if every generic name in it is marked as reading would have marked it, and otherwise
it is not.
-/

namespace ClientGen.TypeExpr

/-! ### Names in types that were parsed -/

mutual

/-- Whether every name in a type is as parsing leaves it. -/
def Legible : TypeExpr → Prop
  | .named name [] => IsWord name ∧ name ≠ "void" ∧ expandKeyword name = name
  | .named name (arg :: args) => IsWord name ∧ arg.Legible ∧ AllLegible args
  | .array element => element.Legible
  | .parameter name => IsWord name
  | .void => True

def AllLegible : List TypeExpr → Prop
  | [] => True
  | type :: types => type.Legible ∧ AllLegible types

end

theorem keyword_or_same (word : String) :
    (word, expandKeyword word) ∈ keywords ∨ expandKeyword word = word := by
  rw [expandKeyword]
  cases found : keywords.lookup word with
  | none => exact Or.inr rfl
  | some full => exact Or.inl (mem_keywords found)

theorem isWord_expandKeyword {word : String} (isWord : IsWord word) :
    IsWord (expandKeyword word) := by
  have areWords : ∀ entry ∈ keywords, IsWord entry.2 := by decide +kernel
  rcases keyword_or_same word with keyword | same
  · exact areWords _ keyword
  · rw [same]
    exact isWord

theorem expandKeyword_ne_void {word : String} (other : word ≠ "void") :
    expandKeyword word ≠ "void" := by
  have others : ∀ entry ∈ keywords, entry.2 ≠ "void" := by decide
  rcases keyword_or_same word with keyword | same
  · exact others _ keyword
  · rw [same]
    exact other

/-- No keyword stands for another one. -/
theorem expandKeyword_expandKeyword (word : String) :
    expandKeyword (expandKeyword word) = expandKeyword word := by
  have fixed : ∀ entry ∈ keywords, expandKeyword entry.2 = entry.2 := by decide
  rcases keyword_or_same word with keyword | same
  · exact fixed _ keyword
  · rw [same, same]

theorem isNameChar_of_mem_toString {count : Nat} {c : Char} (among : c ∈ (toString count).toList) :
    isNameChar c = true := by
  have digits : (toString count).toList = Nat.toDigits 10 count := by simp [toString, Nat.repr]
  rw [digits] at among
  have isDigit := Nat.isDigit_of_mem_toDigits (by decide) (by decide) among
  have ascii : c.val < 128 := by
    simp only [Char.isDigit, Bool.and_eq_true, decide_eq_true_eq] at isDigit
    exact Nat.lt_of_le_of_lt isDigit.2 (by decide)
  simp [isNameChar, Text.isAlphanumeric, Char.isAlphanum, ascii, isDigit]

theorem isWord_markedName {word : String} (isWord : IsWord word) (count : Nat) :
    IsWord (markedName word count) := by
  have full := isWord_expandKeyword isWord
  rw [markedName]
  split
  · exact full
  · constructor
    · simp
    · intro c among
      rw [String.toList_append, String.toList_append, List.mem_append, List.mem_append] at among
      rcases among with (inName | isMark) | inCount
      · exact full.named c inName
      · rw [List.mem_singleton.mp isMark]
        decide
      · exact isNameChar_of_mem_toString inCount

theorem isWord_nullableName : IsWord nullableName := by
  decide +kernel

theorem legible_applied {type : TypeExpr} (legible : type.Legible) (ending : Ending) :
    (ending.applied type).Legible := by
  cases ending with
  | brackets => exact legible
  | question => exact ⟨isWord_nullableName, legible, trivial⟩

theorem legible_foldl_applied {type : TypeExpr} (legible : type.Legible) (endings : List Ending) :
    (endings.foldl Ending.applied type).Legible := by
  induction endings generalizing type with
  | nil => exact legible
  | cons ending endings ih => exact ih (legible_applied legible ending)

mutual

theorem Written.legible : ∀ written : Written, written.meaning.Legible
  | ⟨head, endings⟩ => legible_foldl_applied head.legible endings

theorem Head.legible : ∀ head : Head, head.meaning.Legible
  | .parameter name => name.isWord
  | .void => trivial
  | .plain name => ⟨isWord_expandKeyword name.isWord, expandKeyword_ne_void name.notVoid,
      expandKeyword_expandKeyword name.text⟩
  | .generic name first others => ⟨isWord_markedName name.isWord _, first.legible,
      allLegible_meanings others⟩

theorem allLegible_meanings : ∀ others : List Written, AllLegible (meanings others)
  | [] => trivial
  | written :: others => ⟨written.legible, allLegible_meanings others⟩

end

theorem legible_of_parse {text : String} {type : TypeExpr} (parsed : parse text = .ok type) :
    type.Legible := by
  rcases parse_iff_written.mp parsed with ⟨written, -, rfl⟩
  exact written.legible

/-! ### Tokens of the text of a type -/

def baseTokens (base : String) : List Token :=
  if base = "" then [] else [.word base]

mutual

/-- The tokens of the text of a type. -/
def printed : TypeExpr → List Token
  | .named name [] => [.word name]
  | .named name (arg :: args) =>
    if name = nullableName ∧ args = [] then arg.printed ++ [.mark '?']
    else baseTokens (QualifiedName.withoutArity name) ++
      .mark '<' :: (arg.printed ++ (argsPrinted args ++ [.mark '>']))
  | .array element => element.printed ++ [.mark '[', .mark ']']
  | .parameter name => [.mark '$', .word name]
  | .void => [.word "void"]

def argsPrinted : List TypeExpr → List Token
  | [] => []
  | arg :: args => .mark ',' :: (arg.printed ++ argsPrinted args)

end

section Characters

variable (name : String) (arg element : TypeExpr) (args : List TypeExpr)

theorem toList_toText_named_cons : (toText (.named name (arg :: args))).toList =
    if name = nullableName ∧ args = [] then arg.toText.toList ++ ['?']
    else (QualifiedName.withoutArity name).toList ++
      '<' :: (arg.toText.toList ++ ((argsText args).toList ++ ['>'])) := by
  cases args with
  | nil =>
    simp only [toText, argsText]
    split <;> simp_all
  | cons other args => simp [toText]

theorem toList_toText_array : (toText (.array element)).toList =
    element.toText.toList ++ ['[', ']'] := by
  simp [toText]

theorem toList_toText_parameter : (toText (.parameter name)).toList = '$' :: name.toList := by
  simp [toText]

theorem toList_argsText_cons : (argsText (arg :: args)).toList =
    ',' :: ' ' :: (arg.toText.toList ++ (argsText args).toList) := by
  simp [argsText]

end Characters

theorem isNameChar_of_mem_withoutArity {name : String} (isWord : IsWord name) {c : Char}
    (among : c ∈ (QualifiedName.withoutArity name).toList) : isNameChar c = true := by
  rw [QualifiedName.withoutArity, Text.beforeFirst, String.toList_ofList] at among
  exact isWord.named c ((List.takeWhile_prefix _).subset among)

theorem lex_base {base : String} {rest : List Char}
    (named : ∀ c ∈ base.toList, isNameChar c = true) (apart : Apart rest) :
    lex (base.toList ++ rest) = baseTokens base ++ lex rest := by
  rw [baseTokens]
  split
  · next isEmpty =>
    rw [isEmpty]
    rfl
  · next isNonempty =>
    have nonempty : base.toList ≠ [] := by
      intro empty
      exact isNonempty (String.toList_eq_nil_iff.mp empty)
    rw [lex_word nonempty named apart, String.ofList_toList]
    rfl

theorem apart_argsText (args : List TypeExpr) {rest : List Char} (apart : Apart rest) :
    Apart ((argsText args).toList ++ rest) := by
  cases args with
  | nil => exact apart
  | cons arg args =>
    rw [toList_argsText_cons]
    exact apart_cons (by decide)

mutual

theorem lex_toText : ∀ (type : TypeExpr) {rest : List Char}, type.Legible → Apart rest →
    lex (type.toText.toList ++ rest) = type.printed ++ lex rest
  | .named name [], rest, legible, apart => by
    rw [toText, printed, lex_word legible.1.nonempty legible.1.named apart, String.ofList_toList]
    rfl
  | .named name (arg :: args), rest, legible, apart => by
    rw [toList_toText_named_cons, printed]
    split
    · rw [List.append_assoc, List.singleton_append,
        lex_toText arg legible.2.1 (apart_cons (by decide)), lex_mark (by decide) (by decide),
        List.append_assoc, List.singleton_append]
    · have closing : Apart ('>' :: rest) := apart_cons (by decide)
      simp only [List.append_assoc, List.cons_append, List.nil_append]
      rw [lex_base (fun _ => isNameChar_of_mem_withoutArity legible.1) (apart_cons (by decide)),
        lex_mark (by decide) (by decide), lex_toText arg legible.2.1 (apart_argsText args closing),
        lex_argsText args legible.2.2 closing, lex_mark (by decide) (by decide)]
  | .array element, rest, legible, apart => by
    rw [toList_toText_array, printed]
    simp only [List.append_assoc, List.cons_append, List.nil_append]
    rw [lex_toText element legible (apart_cons (by decide)), lex_mark (by decide) (by decide),
      lex_mark (by decide) (by decide)]
  | .parameter name, rest, legible, apart => by
    rw [toList_toText_parameter, List.cons_append, lex_mark (by decide) (by decide),
      lex_word legible.nonempty legible.named apart, String.ofList_toList]
    rfl
  | .void, rest, _, apart => lex_word voidWord.isWord.nonempty voidWord.isWord.named apart

theorem lex_argsText : ∀ (args : List TypeExpr) {rest : List Char}, AllLegible args → Apart rest →
    lex ((argsText args).toList ++ rest) = argsPrinted args ++ lex rest
  | [], rest, _, _ => rfl
  | arg :: args, rest, legible, apart => by
    rw [toList_argsText_cons, argsPrinted]
    simp only [List.append_assoc, List.cons_append]
    rw [lex_mark (by decide) (by decide), lex_blank (by decide),
      lex_toText arg legible.1 (apart_argsText args apart), lex_argsText args legible.2 apart]

end

/-! ### Marks -/

/-- Whether reading marks a name if arguments follow it, and changes nothing else about it. -/
structure IsBase (base : String) : Prop where
  nonempty : base ≠ ""
  notVoid : base ≠ "void"
  unmarked : '\x60' ∉ base.toList
  notKeyword : expandKeyword base = base

mutual

/-- Whether every generic name in a type is a name and the number of its arguments. -/
def Marked : TypeExpr → Prop
  | .named _ [] => True
  | .named name (arg :: args) =>
    (∃ base, IsBase base ∧ name = base ++ "\x60" ++ toString (args.length + 1)) ∧
      arg.Marked ∧ AllMarked args
  | .array element => element.Marked
  | .parameter _ => True
  | .void => True

def AllMarked : List TypeExpr → Prop
  | [] => True
  | type :: types => type.Marked ∧ AllMarked types

end

theorem marked_nullable {type : TypeExpr} (marked : type.Marked) : (nullable type).Marked := by
  refine ⟨⟨"System.Nullable", ?_, rfl⟩, marked, trivial⟩
  constructor <;> decide

theorem withoutArity_marked {base : String} (unmarked : '\x60' ∉ base.toList) (count : Nat) :
    QualifiedName.withoutArity (base ++ "\x60" ++ toString count) = base := by
  have before : ∀ c ∈ base.toList, (c != '\x60') = true := by
    intro c among
    rw [bne_iff_ne]
    rintro rfl
    exact unmarked among
  have mark : "\x60".toList = ['\x60'] := rfl
  rw [QualifiedName.withoutArity, Text.beforeFirst, String.toList_append, String.toList_append,
    List.append_assoc, List.takeWhile_append_of_pos before, mark]
  simp

theorem markedName_of_isBase {base : String} (isBase : IsBase base) (count : Nat) :
    markedName base count = base ++ "\x60" ++ toString count := by
  rw [markedName, if_neg isBase.unmarked, isBase.notKeyword]

theorem IsBase.toTypeName {base : String} {count : Nat} (isBase : IsBase base)
    (isWord : IsWord (base ++ "\x60" ++ toString count)) : ∃ name : TypeName, name.text = base := by
  have named : ∀ c ∈ base.toList, isNameChar c = true := by
    intro c among
    refine isWord.named c ?_
    rw [String.toList_append, String.toList_append]
    exact List.mem_append_left _ (List.mem_append_left _ among)
  have nonempty : base.toList ≠ [] := by
    intro empty
    exact isBase.nonempty (String.toList_eq_nil_iff.mp empty)
  exact ⟨⟨⟨base, nonempty, named⟩, isBase.notVoid⟩, rfl⟩

mutual

/-- A type that is marked is what its text spells. -/
theorem exists_written_of_marked : ∀ type : TypeExpr, type.Legible → type.Marked →
    ∃ written : Written, written.tokens = type.printed ∧ written.meaning = type
  | .named name [], legible, _ => by
    refine ⟨⟨.plain ⟨⟨name, legible.1⟩, legible.2.1⟩, []⟩, rfl, ?_⟩
    rw [Written.meaning, Head.meaning, legible.2.2]
    rfl
  | .named name (arg :: args), legible, marked => by
    rcases exists_written_of_marked arg legible.2.1 marked.2.1 with ⟨first, firstTokens, rfl⟩
    rw [printed]
    split
    · next isNullable =>
      rcases isNullable with ⟨rfl, rfl⟩
      refine ⟨first.followedBy .question, ?_, ?_⟩
      · rw [Written.tokens_followedBy, firstTokens]
        rfl
      · rw [Written.meaning_followedBy]
        rfl
    · rcases exists_others_of_allMarked args legible.2.2 marked.2.2 with
        ⟨others, othersTokens, rfl⟩
      rcases marked.1 with ⟨base, isBase, rfl⟩
      rcases isBase.toTypeName legible.1 with ⟨name, rfl⟩
      refine ⟨⟨.generic name first others, []⟩, ?_, ?_⟩
      · rw [withoutArity_marked isBase.unmarked, baseTokens, if_neg isBase.nonempty,
          Written.tokens, Head.tokens, firstTokens, othersTokens]
        simp
      · rw [Written.meaning, Head.meaning, markedName_of_isBase isBase, meanings_eq_map,
          List.length_map]
        rfl
  | .array element, legible, marked => by
    rcases exists_written_of_marked element legible marked with ⟨written, tokens, rfl⟩
    refine ⟨written.followedBy .brackets, ?_, ?_⟩
    · rw [Written.tokens_followedBy, tokens]
      rfl
    · rw [Written.meaning_followedBy]
      rfl
  | .parameter name, legible, _ => ⟨⟨.parameter ⟨name, legible⟩, []⟩, rfl, rfl⟩
  | .void, _, _ => ⟨⟨.void, []⟩, rfl, rfl⟩

theorem exists_others_of_allMarked : ∀ args : List TypeExpr, AllLegible args → AllMarked args →
    ∃ others, othersTokens others = argsPrinted args ∧ meanings others = args
  | [], _, _ => ⟨[], rfl, rfl⟩
  | arg :: args, legible, marked => by
    rcases exists_written_of_marked arg legible.1 marked.1 with ⟨written, tokens, rfl⟩
    rcases exists_others_of_allMarked args legible.2 marked.2 with ⟨others, moreTokens, rfl⟩
    refine ⟨written :: others, ?_, rfl⟩
    rw [othersTokens, tokens, moreTokens, argsPrinted]

end

/-! ### What the text of a type is read as -/

open Reading

/-- A base that reading marks in the way the name says is one that it does not change otherwise. -/
theorem isBase_of_markedName {name : String} {count : Nat}
    (nonempty : QualifiedName.withoutArity name ≠ "")
    (notVoid : QualifiedName.withoutArity name ≠ "void")
    (same : markedName (QualifiedName.withoutArity name) count = name) :
    ∃ base, IsBase base ∧ name = base ++ "\x60" ++ toString count := by
  have unmarked : '\x60' ∉ (QualifiedName.withoutArity name).toList := by
    rw [QualifiedName.withoutArity, Text.beforeFirst, String.toList_ofList]
    intro among
    have different := List.mem_takeWhile_imp among
    exact absurd rfl (bne_iff_ne.mp different)
  rw [markedName, if_neg unmarked] at same
  have notKeyword : expandKeyword (QualifiedName.withoutArity name) =
      QualifiedName.withoutArity name := by
    have fullUnmarked := mem_expandKeyword_iff.not.mpr unmarked
    have whole := withoutArity_marked fullUnmarked count
    rw [same] at whole
    exact whole.symm
  refine ⟨QualifiedName.withoutArity name, ⟨nonempty, notVoid, unmarked, notKeyword⟩, ?_⟩
  rw [notKeyword] at same
  exact same.symm

mutual

/-- Reading the text of a type is reading some type, which is not the same unless the type is
marked. -/
theorem exists_reread : ∀ (type : TypeExpr) {stack : List OpenType} {rest : List Token}
    {last : Reading}, type.Legible → Runs ⟨stack, .beforeType⟩ (type.printed ++ rest) last →
      ∃ other situation, situation.Holds other ∧ (other = type → type.Marked) ∧
        Runs ⟨stack, situation⟩ rest last
  | .named name [], stack, rest, last, legible, runs =>
    ⟨_, _, .word name, fun _ => trivial, runs.of_step (.word legible.2.1)⟩
  | .named name (arg :: args), stack, rest, last, legible, runs => by
    rw [printed] at runs
    split at runs
    · next isNullable =>
      rcases isNullable with ⟨rfl, rfl⟩
      rw [List.append_assoc] at runs
      rcases exists_reread arg legible.2.1 runs with ⟨other, situation, holds, marked, runs⟩
      refine ⟨_, _, .type (nullable other), ?_, runs.of_step (.question holds)⟩
      intro same
      rw [nullable, named.injEq, List.cons.injEq] at same
      exact marked_nullable (marked same.2.1)
    · simp only [List.append_assoc, List.cons_append, List.nil_append] at runs
      rw [baseTokens] at runs
      split at runs
      -- Without a name the text begins with an angle, which no type does.
      · cases runs with
        | token step _ =>
          have stuck := take_of_steps step
          simp [take] at stuck
      · next nonempty =>
        by_cases notVoid : QualifiedName.withoutArity name = "void"
        · rw [notVoid] at runs
          -- The word for no value takes no arguments.
          cases runs.of_step .void with
          | token step _ =>
            have stuck := take_of_steps step
            simp [take, continueType] at stuck
        · have inside := (runs.of_step (.word notVoid)).of_step .opening
          rcases exists_reread arg legible.2.1 inside with
            ⟨first, situation, holds, firstMarked, runs⟩
          rcases exists_rereadArgs args legible.2.2 holds runs with
            ⟨others, type, later, kept, laterHolds, arguments, othersMarked, runs⟩
          refine ⟨_, _, .type _, ?_, runs.of_step (.closing laterHolds)⟩
          intro same
          rw [arguments, List.reverse_nil, List.nil_append, apply_expandKeyword, named.injEq,
            List.cons.injEq] at same
          rcases same with ⟨sameName, rfl, rfl⟩
          exact ⟨isBase_of_markedName nonempty notVoid sameName, firstMarked rfl, othersMarked rfl⟩
  | .array element, stack, rest, last, legible, runs => by
    rw [printed, List.append_assoc] at runs
    rcases exists_reread element legible runs with ⟨other, situation, holds, marked, runs⟩
    refine ⟨_, _, .type (.array other), ?_,
      (runs.of_step (.bracket holds)).of_step .closingBracket⟩
    intro same
    exact marked (array.inj same)
  | .parameter name, stack, rest, last, legible, runs =>
    ⟨_, _, .type _, fun _ => trivial, (runs.of_step .dollar).of_step .parameter⟩
  | .void, stack, rest, last, legible, runs =>
    ⟨_, _, .type .void, fun _ => trivial, runs.of_step .void⟩

theorem exists_rereadArgs : ∀ (args : List TypeExpr) {name : String} {finished : List TypeExpr}
    {stack : List OpenType} {situation : Situation} {type : TypeExpr} {rest : List Token}
    {last : Reading}, AllLegible args → situation.Holds type →
      Runs ⟨⟨name, finished⟩ :: stack, situation⟩ (argsPrinted args ++ rest) last →
        ∃ others final later kept, later.Holds final ∧
          (final :: kept).reverse = finished.reverse ++ type :: others ∧
          (others = args → AllMarked args) ∧ Runs ⟨⟨name, kept⟩ :: stack, later⟩ rest last
  | [], name, finished, stack, situation, type, rest, last, _, holds, runs =>
    ⟨[], type, situation, finished, holds, List.reverse_cons .., fun _ => trivial, runs⟩
  | arg :: args, name, finished, stack, situation, type, rest, last, legible, holds, runs => by
    rw [argsPrinted, List.cons_append, List.append_assoc] at runs
    rcases exists_reread arg legible.1 (runs.of_step (.comma holds)) with
      ⟨first, middle, middleHolds, firstMarked, runs⟩
    rcases exists_rereadArgs args legible.2 middleHolds runs with
      ⟨others, final, later, kept, laterHolds, arguments, othersMarked, runs⟩
    refine ⟨first :: others, final, later, kept, laterHolds, ?_, ?_, runs⟩
    · rw [arguments, List.reverse_cons, List.append_assoc, List.singleton_append]
    · intro same
      rw [List.cons.injEq] at same
      exact ⟨firstMarked same.1, othersMarked same.2⟩

end

/-- A type with names as parsing leaves them is read back from its text if it is marked, and not
otherwise. -/
theorem parse_toText_iff {type : TypeExpr} (legible : type.Legible) :
    parse type.toText = .ok type ↔ type.Marked := by
  have lexed : lex type.toText.toList = type.printed := by
    rw [← List.append_nil type.toText.toList, lex_toText type legible apart_nil, lex_nil,
      List.append_nil]
  constructor
  · intro parsed
    rcases parse_eq_ok_iff.mp parsed with ⟨situation, runs, holds⟩
    rw [lexed, ← List.append_nil type.printed] at runs
    rcases exists_reread type legible runs with ⟨other, reached, reachedHolds, marked, nothing⟩
    cases nothing
    exact marked (reachedHolds.unique holds)
  · intro marked
    rcases exists_written_of_marked type legible marked with ⟨written, tokens, denoted⟩
    exact parse_iff_written.mpr ⟨written, lexed.trans tokens.symm, denoted⟩

/-! ### Texts without marks -/

def Unmarked (ts : List Token) : Prop :=
  ∀ word, .word word ∈ ts → '\x60' ∉ word.toList

theorem Unmarked.of_subset {ts others : List Token} (unmarked : Unmarked ts)
    (included : others ⊆ ts) : Unmarked others :=
  fun word among => unmarked word (included among)

theorem marked_foldl_applied {type : TypeExpr} (marked : type.Marked) (endings : List Ending) :
    (endings.foldl Ending.applied type).Marked := by
  induction endings generalizing type with
  | nil => exact marked
  | cons ending endings ih =>
    cases ending with
    | brackets =>
      have markedArray : (TypeExpr.array type).Marked := marked
      exact ih markedArray
    | question => exact ih (marked_nullable marked)

/-- What a name stands for is a base if the name has no mark. -/
theorem isBase_expandKeyword (name : TypeName) (unmarked : '\x60' ∉ name.text.toList) :
    IsBase (expandKeyword name.text) where
  nonempty := by
    intro empty
    exact (isWord_expandKeyword name.isWord).nonempty (String.toList_eq_nil_iff.mpr empty)
  notVoid := expandKeyword_ne_void name.notVoid
  unmarked := mem_expandKeyword_iff.not.mpr unmarked
  notKeyword := expandKeyword_expandKeyword name.text

mutual

theorem Written.marked : ∀ written : Written, Unmarked written.tokens → written.meaning.Marked
  | ⟨head, endings⟩, unmarked =>
    marked_foldl_applied (head.marked (unmarked.of_subset (List.subset_append_left _ _))) endings

theorem Head.marked : ∀ head : Head, Unmarked head.tokens → head.meaning.Marked
  | .parameter _, _ => trivial
  | .void, _ => trivial
  | .plain _, _ => trivial
  | .generic name first others, unmarked => by
    have own := unmarked name.text List.mem_cons_self
    refine ⟨⟨expandKeyword name.text, isBase_expandKeyword name own, ?_⟩, ?_, ?_⟩
    · rw [markedName, if_neg own, meanings_eq_map, List.length_map]
    · refine first.marked (unmarked.of_subset ?_)
      intro token among
      exact List.mem_cons_of_mem _ (List.mem_cons_of_mem _ (List.mem_append_left _ among))
    · refine allMarked_meanings others (unmarked.of_subset ?_)
      intro token among
      exact List.mem_cons_of_mem _ (List.mem_cons_of_mem _
        (List.mem_append_right _ (List.mem_append_left _ among)))

theorem allMarked_meanings : ∀ others : List Written, Unmarked (othersTokens others) →
    AllMarked (meanings others)
  | [], _ => trivial
  | written :: others, unmarked => by
    rw [othersTokens] at unmarked
    refine ⟨written.marked (unmarked.of_subset ?_),
      allMarked_meanings others (unmarked.of_subset ?_)⟩
    · intro token among
      exact List.mem_cons_of_mem _ (List.mem_append_left _ among)
    · intro token among
      exact List.mem_cons_of_mem _ (List.mem_append_right _ among)

end

theorem marked_of_parse {text : String} {type : TypeExpr} (parsed : parse text = .ok type)
    (unmarked : '\x60' ∉ text.toList) : type.Marked := by
  rcases parse_iff_written.mp parsed with ⟨written, lexed, rfl⟩
  refine written.marked ?_
  intro word among marked
  rw [← lexed] at among
  exact unmarked ((legal_of_mem_lex among).2 '\x60' marked)

/-! ### Results -/

/-- A type that was parsed is read back from its text if every generic name in it is a name and the
number of its arguments, and otherwise it is not. Every type that is written without marks is. -/
theorem parse_toText_of_parse {text : String} {type : TypeExpr} (parsed : parse text = .ok type) :
    (parse type.toText = .ok type ↔ type.Marked) ∧ ('\x60' ∉ text.toList → type.Marked) :=
  ⟨parse_toText_iff (legible_of_parse parsed), marked_of_parse parsed⟩

theorem parse_toText_of_dictionary :
    ∃ type, parse "Dictionary<string, List<Order?>>[]" = .ok type ∧
      parse type.toText = .ok type := by
  have parsed : parse "Dictionary<string, List<Order?>>[]" = .ok (.array (.named "Dictionary\x602"
      [.named "System.String" [], .named "List\x601" [nullable (.named "Order" [])]])) := by rfl
  have result := parse_toText_of_parse parsed
  exact ⟨_, parsed, result.1.mpr (result.2 (by decide))⟩

/-- The name of a type inside a generic one has its mark inside, and loses more than that. -/
theorem parse_toText_ne_keys :
    ∃ type, parse "Dictionary\x602+KeyCollection<string, int>" = .ok type ∧
      type.toText = "Dictionary<System.String, System.Int32>" ∧
      parse type.toText ≠ .ok type := by
  refine ⟨.named "Dictionary\x602+KeyCollection"
    [.named "System.String" [], .named "System.Int32" []], by rfl, by rfl, ?_⟩
  have reread : parse "Dictionary<System.String, System.Int32>" = .ok (.named "Dictionary\x602"
      [.named "System.String" [], .named "System.Int32" []]) := by rfl
  intro same
  have different : "Dictionary\x602" ≠ "Dictionary\x602+KeyCollection" := by decide
  exact different (named.inj (Except.ok.inj (reread.symm.trans same))).1

end ClientGen.TypeExpr

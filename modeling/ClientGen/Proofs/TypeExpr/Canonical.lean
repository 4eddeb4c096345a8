import ClientGen.Proofs.TypeExpr.Printing

/-!
# Types that are read back from their texts

A type may have any names, also such as no text is read as: names with blanks and brackets, keywords,
names without their marks. The text of a type with such a name may be read all the same, but then it
is read as another type, since the names of what was read are as reading leaves them. So which types
are read back from their texts can be told from the names alone.
-/

namespace ClientGen.TypeExpr

/-- Whether reading keeps a word as the name of a type. -/
structure IsTypeName (name : String) : Prop where
  isWord : IsWord name
  notVoid : name ≠ "void"
  notKeyword : name ∉ keywords.map (·.1)

mutual

/-- Whether every name in a type is one that its text is read back as. A generic type has a name and
the number of its arguments. -/
def Canonical : TypeExpr → Prop
  | .named name [] => IsTypeName name
  | .named name (arg :: args) =>
    (name = nullableName ∧ args = [] ∨
      ∃ base, IsTypeName base ∧ '\x60' ∉ base.toList ∧
        name = base ++ "\x60" ++ toString (args.length + 1)) ∧
      arg.Canonical ∧ AllCanonical args
  | .array element => element.Canonical
  | .parameter name => IsWord name
  | .void => True

def AllCanonical : List TypeExpr → Prop
  | [] => True
  | type :: types => type.Canonical ∧ AllCanonical types

end

variable {name base : String}

/-! ### Names -/

/-- No keyword stands for itself. -/
theorem expandKeyword_eq_self_iff : expandKeyword name = name ↔ name ∉ keywords.map (·.1) := by
  constructor
  · intro same isKeyword
    have others : ∀ keyword ∈ keywords.map (·.1), expandKeyword keyword ≠ keyword := by decide
    exact others name isKeyword same
  · intro other
    rcases keyword_or_same name with keyword | same
    · exact absurd (List.mem_map_of_mem keyword) other
    · exact same

theorem isTypeName_iff :
    IsTypeName name ↔ IsWord name ∧ name ≠ "void" ∧ expandKeyword name = name := by
  rw [expandKeyword_eq_self_iff]
  exact ⟨fun isName => ⟨isName.isWord, isName.notVoid, isName.notKeyword⟩,
    fun all => ⟨all.1, all.2.1, all.2.2⟩⟩

theorem IsTypeName.isBase (isName : IsTypeName base) (unmarked : '\x60' ∉ base.toList) :
    IsBase base where
  nonempty := fun empty => isName.isWord.nonempty (String.toList_eq_nil_iff.mpr empty)
  notVoid := isName.notVoid
  unmarked := unmarked
  notKeyword := expandKeyword_eq_self_iff.mpr isName.notKeyword

/-- What is a base of a generic name, if the whole is a word. -/
theorem IsBase.isTypeName {count : Nat} (isBase : IsBase base)
    (isWord : IsWord (base ++ "\x60" ++ toString count)) : IsTypeName base := by
  rcases isBase.toTypeName isWord with ⟨name, rfl⟩
  exact isTypeName_iff.mpr ⟨name.isWord, isBase.notVoid, isBase.notKeyword⟩

/-- The name of a generic type is a word with a mark that reading would put there exactly if it is
the nullable wrapper's or made of a base and the number of arguments. -/
theorem isWord_and_marked_iff {args : List TypeExpr} :
    (IsWord name ∧ ∃ base, IsBase base ∧ name = base ++ "\x60" ++ toString (args.length + 1)) ↔
      (name = nullableName ∧ args = [] ∨
        ∃ base, IsTypeName base ∧ '\x60' ∉ base.toList ∧
          name = base ++ "\x60" ++ toString (args.length + 1)) := by
  constructor
  · rintro ⟨isWord, base, isBase, rfl⟩
    exact Or.inr ⟨base, isBase.isTypeName isWord, isBase.unmarked, rfl⟩
  · rintro (⟨rfl, rfl⟩ | ⟨base, isName, unmarked, rfl⟩)
    · have marked : (TypeExpr.nullable .void).Marked := marked_nullable trivial
      exact ⟨isWord_nullableName, marked.1⟩
    · have isBase := isName.isBase unmarked
      refine ⟨?_, base, isBase, rfl⟩
      rw [← markedName_of_isBase isBase]
      exact isWord_markedName isName.isWord _

/-! ### Types -/

mutual

theorem canonical_iff : ∀ type : TypeExpr, type.Canonical ↔ type.Legible ∧ type.Marked
  | .named name [] => by
    rw [Canonical, Legible, Marked, and_true]
    exact isTypeName_iff
  | .named name (arg :: args) => by
    rw [Canonical, Legible, Marked, canonical_iff arg, allCanonical_iff args,
      ← isWord_and_marked_iff]
    constructor
    · rintro ⟨⟨isWord, marked⟩, own, others⟩
      exact ⟨⟨isWord, own.1, others.1⟩, marked, own.2, others.2⟩
    · rintro ⟨⟨isWord, legible, legibleOthers⟩, marked, own, others⟩
      exact ⟨⟨isWord, marked⟩, ⟨legible, own⟩, legibleOthers, others⟩
  | .array element => canonical_iff element
  | .parameter name => by rw [Canonical, Legible, Marked, and_true]
  | .void => (and_self_iff ..).symm

theorem allCanonical_iff :
    ∀ types : List TypeExpr, AllCanonical types ↔ AllLegible types ∧ AllMarked types
  | [] => (and_self_iff ..).symm
  | type :: types => by
    rw [AllCanonical, AllLegible, AllMarked, canonical_iff type, allCanonical_iff types]
    exact and_and_and_comm

end

/-- A type is read back from its text exactly if it is canonical. -/
theorem parse_toText_iff_canonical (type : TypeExpr) :
    parse type.toText = .ok type ↔ type.Canonical := by
  rw [canonical_iff]
  constructor
  · intro parsed
    have legible := legible_of_parse parsed
    exact ⟨legible, (parse_toText_iff legible).mp parsed⟩
  · rintro ⟨legible, marked⟩
    exact (parse_toText_iff legible).mpr marked

/-- A name that looks like a type with arguments is read as one. -/
example : parse (toText (.named "List<int>" [])) =
    .ok (.named "List\x601" [.named "System.Int32" []]) := rfl

end ClientGen.TypeExpr

import ClientGen.TypeScript.Code
import ClientGen.Proofs.TypeScript.Leaves

/-!
# What code is made of

Code is put together from rows, groups of lines and separators, and only the types in it may have
gaps or mention classes. So what is asked of everything that the types in some code are made of is a
question about the types that were put in; the rules below take it there.
-/

namespace ClientGen.TypeScript.Code

/-- Whether everything that the types in some code are made of is good. -/
def MadeOf (good : ClientType → Prop) (code : Code) : Prop :=
  ∀ type, .type type ∈ code → type.MadeOf good

/-- Whether everything that the types in some lines are made of is good. -/
def AllMadeOf (good : ClientType → Prop) (lines : List Code) : Prop :=
  ∀ line ∈ lines, line.MadeOf good

variable {good : ClientType → Prop} {code other : Code} {lines others : List Code} {α : Type}

/-- Code without gaps is made of what is none. -/
theorem failures_eq_nil_iff : code.failures = [] ↔ code.MadeOf ClientType.IsWhole := by
  rw [failures, List.flatMap_eq_nil_iff]
  constructor
  · intro none type among
    exact ClientType.isWhole_iff.mp (none (.type type) among)
  · intro made fragment among
    cases fragment with
    | type type => exact ClientType.isWhole_iff.mpr (made type among)
    | _ => rfl

/-! ### Texts -/

theorem spell_cons (fragment : Fragment) (code : Code) :
    spell (fragment :: code) = fragment.spell ++ code.spell := by
  simp [spell]

theorem spell_append (code other : Code) : spell (code ++ other) = code.spell ++ other.spell := by
  simp [spell]

/-! ### Parts of lines -/

@[simp]
theorem madeOf_nil : MadeOf good [] := by
  simp [MadeOf]

@[simp]
theorem madeOf_text {content : String} :
    MadeOf good (.text content :: code) ↔ code.MadeOf good := by
  simp [MadeOf]

@[simp]
theorem madeOf_parameter {passing : Passing} {name : String} :
    MadeOf good (.parameter passing name :: code) ↔ code.MadeOf good := by
  simp [MadeOf]

@[simp]
theorem madeOf_helper {helper : Helper} :
    MadeOf good (.helper helper :: code) ↔ code.MadeOf good := by
  simp [MadeOf]

@[simp]
theorem madeOf_type {type : ClientType} :
    MadeOf good (.type type :: code) ↔ type.MadeOf good ∧ code.MadeOf good := by
  simp [MadeOf]

@[simp]
theorem madeOf_append : MadeOf good (code ++ other) ↔ code.MadeOf good ∧ other.MadeOf good := by
  simp [MadeOf, or_imp, forall_and]

@[simp]
theorem madeOf_flatMap {items : List α} {part : α → Code} :
    MadeOf good (items.flatMap part) ↔ ∀ item ∈ items, (part item).MadeOf good := by
  simp only [MadeOf, List.mem_flatMap, forall_exists_index, and_imp]
  exact ⟨fun made item among type inside => made type item among inside,
    fun made type item among inside => made item among type inside⟩

@[simp]
theorem madeOf_row {parts : List Code} : (row parts).MadeOf good ↔ AllMadeOf good parts := by
  rw [row, ← List.flatMap_id, madeOf_flatMap]
  rfl

@[simp]
theorem madeOf_indent : code.indent.MadeOf good ↔ code.MadeOf good :=
  madeOf_text

theorem madeOf_join {separator : String} {parts : List Code} :
    (join separator parts).MadeOf good ↔ AllMadeOf good parts := by
  induction parts with
  | nil => simp [join, AllMadeOf]
  | cons part parts ih =>
    cases parts with
    | nil => simp [join, AllMadeOf]
    | cons next parts => simp_all [join, AllMadeOf]

/-! ### Groups of lines -/

@[simp]
theorem allMadeOf_nil : AllMadeOf good [] := by
  simp [AllMadeOf]

@[simp]
theorem allMadeOf_cons :
    AllMadeOf good (code :: lines) ↔ code.MadeOf good ∧ AllMadeOf good lines := by
  simp [AllMadeOf]

@[simp]
theorem allMadeOf_append :
    AllMadeOf good (lines ++ others) ↔ AllMadeOf good lines ∧ AllMadeOf good others := by
  simp [AllMadeOf, or_imp, forall_and]

@[simp]
theorem allMadeOf_map {items : List α} {line : α → Code} :
    AllMadeOf good (items.map line) ↔ ∀ item ∈ items, (line item).MadeOf good := by
  simp [AllMadeOf]

theorem allMadeOf_map_indent : AllMadeOf good (lines.map indent) ↔ AllMadeOf good lines := by
  simp [AllMadeOf]

@[simp]
theorem allMadeOf_flatMap {items : List α} {group : α → List Code} :
    AllMadeOf good (items.flatMap group) ↔ ∀ item ∈ items, AllMadeOf good (group item) := by
  simp only [AllMadeOf, List.forall_mem_flatMap]

@[simp]
theorem allMadeOf_stack {groups : List (List Code)} :
    AllMadeOf good (stack groups) ↔ ∀ group ∈ groups, AllMadeOf good group := by
  rw [stack, ← List.flatMap_id, allMadeOf_flatMap]
  rfl

@[simp]
theorem allMadeOf_given {value : Option α} {line : α → Code} :
    AllMadeOf good (given value line) ↔ ∀ item ∈ value, (line item).MadeOf good := by
  cases value <;> simp [given]

theorem allMadeOf_separated {groups : List (List Code)} :
    AllMadeOf good (separated groups) ↔ ∀ group ∈ groups, AllMadeOf good group := by
  induction groups with
  | nil => simp [separated]
  | cons group groups ih =>
    cases groups with
    | nil => simp [separated]
    | cons next groups => simp_all [separated]

@[simp]
theorem allMadeOf_comment {documentation : Option String} :
    AllMadeOf good (comment documentation) := by
  unfold comment
  split
  · split <;> simp
  · simp

end ClientGen.TypeScript.Code

import ClientGen.TypeScript.Client
import ClientGen.Proofs.TypeScript.Code
import ClientGen.Proofs.TypeScript.Scope

/-!
# What code depends on

Code depends on the modules of the classes that its types mention, and on the helpers that it calls.
This is told from the code itself, fragment by fragment, and never from what was noted while it was
written. Texts and values of parameters depend on nothing, so what code depends on is a matter of
the types and helpers that were put in, wherever they stand.
-/

namespace ClientGen.TypeScript

variable {needed : Dependency}

/-! ### Types -/

/-- Whether the classes at a place are those of a module that a dependency stands for. -/
def Home.isOf (needed : Dependency) : Home → Bool
  | .here => false
  | .views => decide (needed = .views)
  | .wrappers => decide (needed = .wrappers)

namespace ClientType

/-- Whether a leaf of a type is a class of a module that a dependency stands for. -/
def isOf (needed : Dependency) : ClientType → Bool
  | .named home _ => home.isOf needed
  | _ => false

/-- Whether a type depends on something. -/
def dependsOn (needed : Dependency) (type : ClientType) : Bool :=
  type.leaves.any (isOf needed)

@[simp]
theorem dependsOn_word {name : String} : (word name).dependsOn needed = false :=
  rfl

theorem dependsOn_named {home : Home} {name : String} :
    (named home name).dependsOn needed = home.isOf needed :=
  Bool.or_false _

@[simp]
theorem dependsOn_gap {failure : Failure} : (gap failure).dependsOn needed = false :=
  rfl

theorem any_leavesOfAll (types : List ClientType) :
    (leavesOfAll types).any (isOf needed) = types.any (dependsOn needed) := by
  induction types with
  | nil => rfl
  | cons type types ih => rw [leavesOfAll, List.any_append, ih, List.any_cons, dependsOn]

theorem dependsOn_apply {head : ClientType} {arguments : List ClientType} :
    (apply head arguments).dependsOn needed =
      (head.dependsOn needed || arguments.any (dependsOn needed)) := by
  rw [dependsOn, leaves, List.any_append, any_leavesOfAll, dependsOn]

theorem dependsOn_union {alternatives : List ClientType} :
    (union alternatives).dependsOn needed = alternatives.any (dependsOn needed) := by
  rw [dependsOn, leaves, any_leavesOfAll]

theorem dependsOn_of_mem_leaves {type : ClientType} {home : Home} {name : String}
    (leaf : .named home name ∈ type.leaves) (isNeeded : home.isOf needed = true) :
    type.dependsOn needed = true :=
  List.any_eq_true.mpr ⟨.named home name, leaf, isNeeded⟩

theorem exists_leaf_of_dependsOn {type : ClientType} (depends : type.dependsOn needed = true) :
    ∃ home name, .named home name ∈ type.leaves ∧ home.isOf needed = true := by
  obtain ⟨leaf, among, isOf⟩ := List.any_eq_true.mp depends
  cases leaf with
  | named home name => exact ⟨home, name, among, isOf⟩
  | _ => cases isOf

/-- No type calls a helper. -/
@[simp]
theorem dependsOn_helper {helper : Helper} (type : ClientType) :
    type.dependsOn (.helper helper) = false := by
  rw [dependsOn, List.any_eq_false]
  intro leaf _
  cases leaf with
  | named home name => cases home <;> simp [isOf, Home.isOf]
  | _ => simp [isOf]

end ClientType

/-! ### Code -/

/-- Whether a fragment depends on something. -/
def Fragment.dependsOn (needed : Dependency) : Fragment → Bool
  | .type mentioned => mentioned.dependsOn needed
  | .helper called => decide (needed = .helper called)
  | .text _ | .parameter _ _ => false

namespace Code

/-- Whether some code depends on something. -/
def dependsOn (needed : Dependency) (code : Code) : Bool :=
  code.any (Fragment.dependsOn needed)

/-- Whether a helper is called. -/
abbrev calls (helper : Helper) : Code → Bool :=
  dependsOn (.helper helper)

variable {code other line : Code} {lines : List Code} {α : Type}

@[simp]
theorem dependsOn_nil : dependsOn needed [] = false :=
  rfl

@[simp]
theorem dependsOn_text {content : String} :
    dependsOn needed (.text content :: code) = code.dependsOn needed :=
  rfl

@[simp]
theorem dependsOn_parameter {passing : Passing} {name : String} :
    dependsOn needed (.parameter passing name :: code) = code.dependsOn needed :=
  rfl

@[simp]
theorem dependsOn_type {type : ClientType} :
    dependsOn needed (.type type :: code) = (type.dependsOn needed || code.dependsOn needed) :=
  rfl

@[simp]
theorem dependsOn_helper {called : Helper} :
    dependsOn needed (.helper called :: code) =
      (decide (needed = .helper called) || code.dependsOn needed) :=
  rfl

@[simp]
theorem dependsOn_append :
    dependsOn needed (code ++ other) = (code.dependsOn needed || other.dependsOn needed) :=
  List.any_append

@[simp]
theorem dependsOn_flatMap {items : List α} {part : α → Code} :
    dependsOn needed (items.flatMap part) = items.any fun item => (part item).dependsOn needed :=
  List.any_flatMap

@[simp]
theorem dependsOn_row {parts : List Code} :
    (row parts).dependsOn needed = parts.any (dependsOn needed) :=
  List.any_flatten

@[simp]
theorem dependsOn_indent : code.indent.dependsOn needed = code.dependsOn needed :=
  rfl

theorem dependsOn_join {separator : String} {parts : List Code} :
    (join separator parts).dependsOn needed = parts.any (dependsOn needed) := by
  induction parts with
  | nil => rfl
  | cons part parts ih =>
    cases parts with
    | nil => simp [join]
    | cons next parts => simp_all [join]

/-! ### Lines -/

@[simp]
theorem any_dependsOn_stack {groups : List (List Code)} :
    (stack groups).any (dependsOn needed) =
      groups.any fun group => group.any (dependsOn needed) :=
  List.any_flatten

@[simp]
theorem dependsOn_comp_indent : dependsOn needed ∘ indent = dependsOn needed :=
  rfl

/-- Lines that are blank are not moved further in. -/
theorem dependsOn_comp_indent_unless_blank :
    (dependsOn needed ∘ fun line => if line.isEmpty then line else line.indent) =
      dependsOn needed := by
  funext line
  simp only [Function.comp_apply]
  split <;> rfl

@[simp]
theorem any_dependsOn_comment {documentation : Option String} :
    (comment documentation).any (dependsOn needed) = false := by
  unfold comment
  split
  · split <;> simp
  · rfl

@[simp]
theorem any_dependsOn_documented {documentation : Option String} :
    (documented documentation line).any (dependsOn needed) = line.dependsOn needed := by
  simp only [documented, List.any_map, dependsOn_comp_indent, List.any_append,
    any_dependsOn_comment, List.any_cons, List.any_nil, Bool.false_or, Bool.or_false]

theorem any_dependsOn_separated {groups : List (List Code)} :
    (separated groups).any (dependsOn needed) =
      groups.any fun group => group.any (dependsOn needed) := by
  induction groups with
  | nil => rfl
  | cons group groups ih =>
    cases groups with
    | nil => simp [separated]
    | cons next groups => simp_all [separated]

theorem any_dependsOn_enumLines (values : List EnumValue) :
    (enumLines values).any (dependsOn needed) = false := by
  induction values with
  | nil => rfl
  | cons value values ih =>
    cases values with
    | nil => simp [enumLines, enumLines.enumMember]
    | cons next values => simp [enumLines, enumLines.enumMember, ih]

theorem any_dependsOn_factory (controllers : List (Controller ClassId))
    (classOf : Controller ClassId → String) :
    (factory controllers classOf).any (dependsOn needed) = false := by
  simp [factory, List.any_map]

end Code

end ClientGen.TypeScript

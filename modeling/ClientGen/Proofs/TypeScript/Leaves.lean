import ClientGen.TypeScript.ClientType

/-!
# What types are made of

At the leaves of a type there are words, classes and gaps; everything else puts types together. What
is asked of a type is often asked of its leaves, one by one: that there are no gaps, that all classes
are found where they are said to be, or that all words mean something.
-/

namespace ClientGen.TypeScript.ClientType

mutual

/-- The words, classes and gaps in a type, from left to right. -/
def leaves : ClientType → List ClientType
  | .word name => [.word name]
  | .named home name => [.named home name]
  | .apply head arguments => head.leaves ++ leavesOfAll arguments
  | .array element => element.leaves
  | .dictionary value => value.leaves
  | .union alternatives => leavesOfAll alternatives
  | .orNull type => type.leaves
  | .gap failure => [.gap failure]

/-- The words, classes and gaps in some types. -/
def leavesOfAll : List ClientType → List ClientType
  | [] => []
  | type :: types => type.leaves ++ leavesOfAll types

end

/-- Whether everything that a type is made of is good. -/
def MadeOf (good : ClientType → Prop) (type : ClientType) : Prop :=
  ∀ leaf ∈ type.leaves, good leaf

/-- Whether a type has no gap. -/
def IsWhole (type : ClientType) : Prop :=
  type.failures = []

mutual

theorem failures_eq_flatMap :
    ∀ type : ClientType, type.failures = type.leaves.flatMap failures
  | .word _ | .named _ _ | .gap _ => by simp [failures, leaves]
  | .apply head arguments => by
    rw [failures, leaves, List.flatMap_append, ← failures_eq_flatMap head,
      ← failuresOfAll_eq_flatMap arguments]
  | .array type | .dictionary type | .orNull type => by
    rw [failures, leaves, failures_eq_flatMap type]
  | .union alternatives => by
    rw [failures, leaves, failuresOfAll_eq_flatMap alternatives]

theorem failuresOfAll_eq_flatMap :
    ∀ types : List ClientType, failuresOfAll types = (leavesOfAll types).flatMap failures
  | [] => rfl
  | type :: types => by
    rw [failuresOfAll, leavesOfAll, List.flatMap_append, ← failures_eq_flatMap type,
      ← failuresOfAll_eq_flatMap types]

end

/-- A type has no gap if nothing that it is made of is one. -/
theorem isWhole_iff {type : ClientType} : type.IsWhole ↔ type.MadeOf IsWhole := by
  rw [IsWhole, failures_eq_flatMap, List.flatMap_eq_nil_iff]
  rfl

end ClientGen.TypeScript.ClientType

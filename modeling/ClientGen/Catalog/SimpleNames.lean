import ClientGen.Collections.Ordered
import ClientGen.QualifiedName

/-!
# The index of last segments

Beside its declarations a catalog keeps, under every last segment, the full names that end in it. A
full name is indexed whenever a declaration is stored under it, also when that declaration replaces
another one, so `add` looks whether the name is there already: this guard is what keeps every full
name from being indexed twice, and a segment from becoming ambiguous by a replacement.
-/

namespace ClientGen

open QualifiedName (lastSegment)

/-- Full names under their last segments. -/
abbrev SimpleNames := List (String × List String)

namespace SimpleNames

/-- The full names under a last segment, in the order in which they were indexed. -/
def candidates (segment : String) (index : SimpleNames) : List String :=
  (Ordered.find? segment index).getD []

/-- Indexes a full name, unless it is indexed already. -/
def add (index : SimpleNames) (fullName : String) : SimpleNames :=
  let others := index.candidates (lastSegment fullName)
  let names := if fullName ∈ others then others else others ++ [fullName]
  Ordered.insert (lastSegment fullName) names index

/-- The index of full names that are given one after the other. -/
def ofNames (fullNames : List String) : SimpleNames :=
  fullNames.foldl add []

/-- Whether an index has exactly the given full names, each once and under its last segment. -/
structure Indexes (index : SimpleNames) (fullNames : List String) : Prop where
  mem_iff : ∀ segment fullName, fullName ∈ index.candidates segment ↔
    fullName ∈ fullNames ∧ lastSegment fullName = segment
  nodup : ∀ segment, (index.candidates segment).Nodup

variable {index : SimpleNames} {segment fullName : String} {fullNames more : List String}

theorem ofNames_concat : ofNames (fullNames ++ [fullName]) = (ofNames fullNames).add fullName := by
  simp [ofNames]

theorem candidates_add : (index.add fullName).candidates segment =
    if lastSegment fullName = segment ∧ fullName ∉ index.candidates segment then
      index.candidates segment ++ [fullName]
    else index.candidates segment := by
  rw [candidates, add, Ordered.find?_insert]
  by_cases same : lastSegment fullName = segment
  · subst same
    by_cases old : fullName ∈ index.candidates (lastSegment fullName) <;> simp [old]
  · simp [same, candidates]

theorem Indexes.empty : Indexes [] [] where
  mem_iff := by simp [candidates, Ordered.find?]
  nodup := by simp [candidates, Ordered.find?]

/-- Whether a name is new or not, afterwards the index has it and what it had before. -/
theorem Indexes.add (indexed : index.Indexes fullNames)
    (adds : ∀ name, name ∈ more ↔ name = fullName ∨ name ∈ fullNames) :
    (index.add fullName).Indexes more where
  mem_iff := by
    intro segment name
    rw [candidates_add, adds]
    by_cases fresh : lastSegment fullName = segment ∧ fullName ∉ index.candidates segment
    · rw [if_pos fresh, List.mem_append, List.mem_singleton, indexed.mem_iff]
      constructor
      · rintro (old | rfl)
        · exact ⟨.inr old.1, old.2⟩
        · exact ⟨.inl rfl, fresh.1⟩
      · rintro ⟨rfl | old, same⟩
        · exact .inr rfl
        · exact .inl ⟨old, same⟩
    · rw [if_neg fresh, indexed.mem_iff]
      constructor
      · rintro ⟨old, same⟩
        exact ⟨.inr old, same⟩
      · rintro ⟨rfl | old, same⟩
        · apply (indexed.mem_iff segment name).mp
          exact Decidable.byContradiction fun missing => fresh ⟨same, missing⟩
        · exact ⟨old, same⟩
  nodup := by
    intro segment
    rw [candidates_add]
    split
    · next fresh =>
      refine List.nodup_append.mpr ⟨indexed.nodup segment, by simp, ?_⟩
      rintro other isOld _ isNew rfl
      exact fresh.2 (List.mem_singleton.mp isNew ▸ isOld)
    · exact indexed.nodup segment

theorem Indexes.addAll (indexed : index.Indexes fullNames) (added : List String) :
    (added.foldl SimpleNames.add index).Indexes (fullNames ++ added) := by
  induction added generalizing index fullNames with
  | nil => simpa using indexed
  | cons first others ih =>
    have whole : fullNames ++ first :: others = fullNames ++ [first] ++ others := by simp
    rw [List.foldl_cons, whole]
    apply ih
    apply indexed.add
    intro name
    rw [List.mem_append, List.mem_singleton, or_comm]

theorem indexes_ofNames (fullNames : List String) : (ofNames fullNames).Indexes fullNames :=
  Indexes.empty.addAll fullNames

end SimpleNames

end ClientGen

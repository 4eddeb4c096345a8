/-!
# Writing code

Code depends on what is outside of it: classes in other modules, and helpers. The module that the
code is written for has to import or declare all of that, so a record of the dependencies goes
through everything that writes code, and whoever writes a name from outside notes it there. Nobody
looks at the record while code is written, and nobody takes anything back; both are part of what
`Writing` is, so what is written and what is noted for it can be told without the record that was
there before.
-/

namespace ClientGen.TypeScript

/-- What code may call that is not in its class. -/
inductive Helper where
  | toDate
  | fromDate
  | arrayChanged
  | dateArrayChanged
  | validation
  | loading
  deriving DecidableEq, Repr

/-- The name of a helper. -/
def Helper.name : Helper → String
  | .toDate => "toDate"
  | .fromDate => "fromDate"
  | .arrayChanged => "arrayChanged"
  | .dateArrayChanged => "dateArrayChanged"
  | .validation => "validation"
  | .loading => "loading"

/-- What code may depend on. -/
inductive Dependency where
  /-- The module of plain classes. -/
  | views
  /-- The module of wrappers. -/
  | wrappers
  | helper (helper : Helper)
  deriving DecidableEq, Repr

/-- What some code turned out to depend on. -/
structure Dependencies where
  views : Bool := false
  wrappers : Bool := false
  validation : Bool := false
  loading : Bool := false
  toDate : Bool := false
  fromDate : Bool := false
  arrayChanged : Bool := false
  dateArrayChanged : Bool := false
  deriving DecidableEq, Repr

namespace Dependencies

/-- Whether something is noted. -/
def has (dependencies : Dependencies) : Dependency → Bool
  | .views => dependencies.views
  | .wrappers => dependencies.wrappers
  | .helper .validation => dependencies.validation
  | .helper .loading => dependencies.loading
  | .helper .toDate => dependencies.toDate
  | .helper .fromDate => dependencies.fromDate
  | .helper .arrayChanged => dependencies.arrayChanged
  | .helper .dateArrayChanged => dependencies.dateArrayChanged

/-- Notes something. -/
def note (dependencies : Dependencies) : Dependency → Dependencies
  | .views => { dependencies with views := true }
  | .wrappers => { dependencies with wrappers := true }
  | .helper .validation => { dependencies with validation := true }
  | .helper .loading => { dependencies with loading := true }
  | .helper .toDate => { dependencies with toDate := true }
  | .helper .fromDate => { dependencies with fromDate := true }
  | .helper .arrayChanged => { dependencies with arrayChanged := true }
  | .helper .dateArrayChanged => { dependencies with dateArrayChanged := true }

/-- What is noted in one of two records. -/
def join (first second : Dependencies) : Dependencies where
  views := first.views || second.views
  wrappers := first.wrappers || second.wrappers
  validation := first.validation || second.validation
  loading := first.loading || second.loading
  toDate := first.toDate || second.toDate
  fromDate := first.fromDate || second.fromDate
  arrayChanged := first.arrayChanged || second.arrayChanged
  dateArrayChanged := first.dateArrayChanged || second.dateArrayChanged

variable {first second third : Dependencies} {noted needed : Dependency}

theorem ext_has (same : ∀ needed, first.has needed = second.has needed) : first = second := by
  cases first
  cases second
  simp only [mk.injEq]
  exact ⟨same .views, same .wrappers, same (.helper .validation), same (.helper .loading),
    same (.helper .toDate), same (.helper .fromDate), same (.helper .arrayChanged),
    same (.helper .dateArrayChanged)⟩

@[simp]
theorem has_none : has {} needed = false := by
  unfold has
  split <;> rfl

@[simp]
theorem has_note :
    (first.note noted).has needed = (decide (needed = noted) || first.has needed) := by
  cases noted with
  | helper noted =>
    cases needed with
    | helper needed => cases noted <;> cases needed <;> rfl
    | _ => cases noted <;> rfl
  | _ =>
    cases needed with
    | helper needed => cases needed <;> rfl
    | _ => rfl

@[simp]
theorem has_join : (first.join second).has needed = (first.has needed || second.has needed) := by
  cases needed with
  | helper helper => cases helper <;> rfl
  | _ => rfl

theorem join_none : first.join {} = first :=
  ext_has fun needed => by simp

theorem none_join : join {} first = first :=
  ext_has fun needed => by simp

theorem join_note : first.join (note {} noted) = first.note noted :=
  ext_has fun needed => by simp [Bool.or_comm]

theorem join_assoc : (first.join second).join third = first.join (second.join third) :=
  ext_has fun needed => by simp [Bool.or_assoc]

end Dependencies

/-- Something that is being written. It goes on with the dependencies that are noted so far. -/
structure Writing (α : Type) where
  run : Dependencies → α × Dependencies
  /-- What is written does not depend on what was noted before, and more is noted. -/
  additive : ∀ before, run before = ((run {}).1, before.join (run {}).2)

namespace Writing

variable {α β : Type}

/-- What is written. -/
def value (writing : Writing α) : α :=
  (writing.run {}).1

/-- What is noted for it. -/
def needs (writing : Writing α) : Dependencies :=
  (writing.run {}).2

theorem run_eq (writing : Writing α) (before : Dependencies) :
    writing.run before = (writing.value, before.join writing.needs) :=
  writing.additive before

instance : Monad Writing where
  pure value :=
    { run := fun dependencies => (value, dependencies)
      additive := fun before => by rw [Dependencies.join_none] }
  bind first next :=
    { run := fun dependencies =>
        let written := first.run dependencies
        (next written.1).run written.2
      additive := fun before => by
        simp only [run_eq, Dependencies.join_assoc, Dependencies.none_join] }

/-- Notes that something is needed. -/
def need (needed : Dependency) : Writing Unit where
  run dependencies := ((), dependencies.note needed)
  additive before := by rw [Dependencies.join_note]

/-- Notes that something is needed, if it is. -/
def needIf (isNeeded : Bool) (needed : Dependency) : Writing Unit :=
  if isNeeded then need needed else pure ()

/-- Writes something for each of some items. -/
def each (write : α → Writing β) : List α → Writing (List β)
  | [] => return []
  | item :: items => do
    let written ← write item
    let others ← each write items
    return written :: others

variable {γ : Type} {writing : Writing α} {next : α → Writing β} {noted needed : Dependency}

@[simp]
theorem value_pure (value : α) : (pure value : Writing α).value = value :=
  rfl

@[simp]
theorem has_pure (value : α) : (pure value : Writing α).needs.has needed = false :=
  Dependencies.has_none

@[simp]
theorem value_bind : (writing >>= next).value = (next writing.value).value := by
  change ((next (writing.run {}).1).run (writing.run {}).2).1 = _
  rw [run_eq]
  rfl

@[simp]
theorem has_bind : (writing >>= next).needs.has needed =
    (writing.needs.has needed || (next writing.value).needs.has needed) := by
  change ((next (writing.run {}).1).run (writing.run {}).2).2.has needed = _
  rw [run_eq, Dependencies.has_join]
  rfl

@[simp]
theorem has_need : (need noted).needs.has needed = decide (needed = noted) := by
  simp [needs, need]

@[simp]
theorem has_needIf {isNeeded : Bool} :
    (needIf isNeeded noted).needs.has needed = (isNeeded && decide (needed = noted)) := by
  cases isNeeded <;> simp [needIf]

@[simp]
theorem value_each (write : α → Writing β) (items : List α) :
    (each write items).value = items.map fun item => (write item).value := by
  induction items with
  | nil => rfl
  | cons item items ih => simp [each, ih]

@[simp]
theorem has_each (write : α → Writing β) (items : List α) :
    (each write items).needs.has needed =
      items.any fun item => (write item).needs.has needed := by
  induction items with
  | nil => exact has_pure []
  | cons item items ih => simp [each, ih]

theorem each_map (write : β → Writing γ) (change : α → β) (items : List α) :
    each write (items.map change) = each (write ∘ change) items := by
  induction items with
  | nil => rfl
  | cons item items ih => simp [each, ih]

end Writing

end ClientGen.TypeScript

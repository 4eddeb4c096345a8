import ClientGen.Proofs.Json.Parsing
import Mathlib.Data.List.Forall2

/-!
# Reading what was written

A reader restores a value from a tree if it gives the value wherever the containers in the tree may
be entered. There is a rule for each way to put a reader together, so what a reader restores is seen
from its layout. In a record the fields are looked for by name, and each name belongs to one field;
a field that was left out is found to be missing.
-/

namespace ClientGen.Data.Tree

mutual

/-- The number of containers around the innermost value. -/
def depth : Tree → Nat
  | .list items => depthOfItems items + 1
  | .record fields => depthOfFields fields + 1
  | .variant _ body => body.depth + 1
  | _ => 0

/-- The greatest depth of the items of a list. -/
def depthOfItems : List Tree → Nat
  | [] => 0
  | item :: items => max item.depth (depthOfItems items)

/-- The greatest depth of the fields of a record. -/
def depthOfFields : List (String × Tree) → Nat
  | [] => 0
  | (_, value) :: fields => max value.depth (depthOfFields fields)

end

end ClientGen.Data.Tree

namespace ClientGen.Json

open Data

variable {α β σ : Type} {reader : Reader α} {tree : Tree} {value : α} {name : String}

/-- Whether a float is read back as it was written. -/
def ReadsBack (x : Float) : Prop :=
  read Reader.float (pretty (.real x)) = .ok x

/-- Whether a reader gives a value for the tree that it was written as. -/
def Restores (reader : Reader α) (tree : Tree) (value : α) : Prop :=
  ∀ scope : Scope, tree.depth ≤ scope.levels → (∀ x ∈ tree.reals, ReadsBack x) →
    reader scope (sourceOf tree) = .ok value

/-! ### Texts and truth values -/

@[simp]
theorem text_ofString (content : String) : (Quoted.ofString content).text = .ok content := by
  have joined : ∀ characters : List Char,
      joinUnits none (characters.map .char) = .ok characters := by
    intro characters
    induction characters with
    | nil => rfl
    | cons c characters ih => 
      rw [List.map_cons, joinUnits, ih]
      rfl
  rw [Quoted.text, Quoted.ofString, joined]
  simp [Except.map]

theorem restores_text (content : String) : Restores Reader.text (.text content) content := by
  intro scope _ _
  exact text_ofString content

theorem restores_bool (truth : Bool) : Restores Reader.bool (.bool truth) truth := by
  intro scope _ _
  rfl

theorem restores_choice {variants : List (String × α)} (known : variants.lookup name = some value) :
    Restores (Reader.choice variants) (.text name) value := by
  intro scope _ _
  simp [sourceOf, Reader.choice, findVariant, known, bind, Except.bind]

/-! ### Numbers -/

theorem le_foldl_digits (digits : List Nat) (start : Nat) :
    start ≤ digits.foldl (10 * · + ·) start := by
  induction digits generalizing start with
  | nil => exact le_refl start
  | cons digit digits ih =>
    have next := ih (10 * start + digit)
    rw [List.foldl_cons]
    omega

/-- Nothing is left of digits that fit. -/
theorem gather_of_le {digits : List Nat} {start : Nat}
    (fits : digits.foldl (10 * · + ·) start ≤ maxWord) :
    gather start digits = ⟨digits.foldl (10 * · + ·) start, []⟩ := by
  induction digits generalizing start with
  | nil => rfl
  | cons digit digits ih =>
    rw [List.foldl_cons] at fits ⊢
    have small := le_trans (le_foldl_digits digits _) fits
    rw [gather, if_pos small, ih fits]

theorem foldl_digitValue (number : Nat) :
    ((Nat.toDigits 10 number).map digitValue).foldl (10 * · + ·) 0 = number := by
  have digits : Nat.ofDigitChars 10 (Nat.toDigits 10 number) 0 = number :=
    Nat.ofDigitChars_ten_toDigits
  rw [Nat.ofDigitChars_eq_foldl] at digits
  rw [List.foldl_map]
  exact digits

/-- The value of an integer's numeral, if the integer fits into 64 bits. -/
theorem value?_intNumeral {number : Int} (least : -(2 ^ 63) ≤ number)
    (greatest : number < 2 ^ 64) : (intNumeral number).value? = some (.int number) := by
  have fits : number.natAbs ≤ maxWord := by
    have word : maxWord = 2 ^ 64 - 1 := rfl
    omega
  have gathered : gather 0 (intNumeral number).whole = ⟨number.natAbs, []⟩ := by
    have whole := foldl_digitValue number.natAbs
    rw [intNumeral, gather_of_le (whole.trans_le fits), whole]
  by_cases negative : number < 0
  · have present : number.natAbs ≠ 0 := by omega
    have notBeyond : ¬ number.natAbs > Nat.pow 2 63 := by
      have half : Nat.pow 2 63 = 2 ^ 63 := rfl
      omega
    simp only [Numeral.value?, gathered]
    simp [intNumeral, negative, present, notBeyond, abs_of_neg]
  · simp only [Numeral.value?, gathered]
    simp [intNumeral, negative, not_lt.mp negative]

theorem restores_int {least greatest number : Int} (fits : -(2 ^ 63) ≤ number ∧ number < 2 ^ 64)
    (bounded : least ≤ number ∧ number ≤ greatest) :
    Restores (Reader.int least greatest) (.int number) number := by
  intro scope _ _
  simp [sourceOf, Reader.int, Source.untagged, value?_intNumeral fits.1 fits.2, bounded]

theorem restores_map {f : α → β} (restores : Restores reader tree value) :
    Restores (reader.map f) tree (f value) := by
  intro scope levels exact
  rw [Reader.map, restores scope levels exact]
  rfl

theorem restores_word {bits number : Nat} (small : bits ≤ 64) (fits : number < 2 ^ bits) :
    Restores (Reader.word bits) (.int number) number := by
  have within : number < 2 ^ 64 := fits.trans_le (Nat.pow_le_pow_right (by decide) small)
  have bounded : (0 : Int) ≤ number ∧ (number : Int) ≤ Nat.pow 2 bits - 1 := by
    have power : Nat.pow 2 bits = 2 ^ bits := rfl
    omega
  exact restores_map (f := Int.toNat) (restores_int (by omega) bounded)

theorem restores_int64 {number : Int} (least : -(2 ^ 63) ≤ number) (greatest : number < 2 ^ 63) :
    Restores Reader.int64 (.int number) number := by
  have power : (Nat.pow 2 63 : Int) = 2 ^ 63 := rfl
  exact restores_int (by omega) (by omega)

theorem restores_float (x : Float) : Restores Reader.float (.real x) x := by
  intro scope _ exact
  exact (isNumeral_of_read (exact x (by simp [Tree.reals]))).2 scope

/-! ### Lists and values that may be missing -/

theorem exists_enter {scope : Scope} {depth : Nat} (levels : depth + 1 ≤ scope.levels) :
    ∃ inner, scope.enter = .ok inner ∧ depth ≤ inner.levels := by
  cases available : scope.levels with
  | zero => omega
  | succ inside =>
    refine ⟨{ scope with levels := inside }, by simp [Scope.enter, available], ?_⟩
    show depth ≤ inside
    omega

theorem items_sourcesOf {trees : List Tree} {values : List α} {scope : Scope}
    (restores : List.Forall₂ (Restores reader) trees values)
    (levels : Tree.depthOfItems trees ≤ scope.levels)
    (exact : ∀ x ∈ Tree.realsOfItems trees, ReadsBack x) :
    Reader.items reader scope (sourcesOf trees) = .ok values := by
  induction restores with
  | nil => rfl
  | cons first others ih =>
    rw [Tree.depthOfItems, max_le_iff] at levels
    rw [Tree.realsOfItems, List.forall_mem_append] at exact
    rw [sourcesOf, Reader.items, first scope levels.1 exact.1, ih levels.2 exact.2]
    rfl

theorem restores_list {trees : List Tree} {values : List α}
    (restores : List.Forall₂ (Restores reader) trees values) :
    Restores (Reader.list reader) (.list trees) values := by
  intro scope levels exact
  rcases exists_enter levels with ⟨inner, enters, inside⟩
  have items := items_sourcesOf restores inside exact
  simp [sourceOf, Reader.list, Source.untagged, enters, items, checkFlaw, bind, Except.bind]

theorem restores_list_map {write : α → Tree} {values : List α}
    (restores : ∀ value ∈ values, Restores reader (write value) value) :
    Restores (Reader.list reader) (.list (values.map write)) values := by
  apply restores_list
  rw [List.forall₂_map_left_iff, List.forall₂_same]
  exact restores

theorem restores_orNull (present : tree ≠ .null) (restores : Restores reader tree value) :
    Restores (Reader.orNull reader) tree (some value) := by
  intro scope levels exact
  have taken := restores scope levels exact
  cases tree with
  | null => exact absurd rfl present
  | _ =>
    rw [sourceOf] at taken ⊢
    simp [Reader.orNull, taken, Except.map]

/-! ### Alternatives and entries -/

theorem restores_keyed {variants : List (String × Reader α)}
    (known : variants.lookup name = some reader) (restores : Restores reader tree value) :
    Restores (Reader.keyed variants) (.variant name tree) value := by
  intro scope levels exact
  rcases exists_enter levels with ⟨inner, enters, inside⟩
  have taken := restores inner inside exact
  simp [sourceOf, Reader.keyed, enters, findVariant, known, taken, checkFlaw, bind, Except.bind]

theorem entryList_membersOf {write : α → Tree} {entries : List (String × α)} {scope : Scope}
    (restores : ∀ entry ∈ entries, Restores reader (write entry.2) entry.2)
    (levels : Tree.depthOfFields (entries.map fun entry => (entry.1, write entry.2)) ≤ scope.levels)
    (exact : ∀ x ∈ Tree.realsOfFields (entries.map fun entry => (entry.1, write entry.2)),
      ReadsBack x) :
    Reader.entryList reader scope
      (membersOf (entries.map fun entry => (entry.1, write entry.2))) = .ok entries := by
  induction entries with
  | nil => rfl
  | cons entry entries ih =>
    rw [List.forall_mem_cons] at restores
    rw [List.map_cons, Tree.depthOfFields, max_le_iff] at levels
    rw [List.map_cons, Tree.realsOfFields, List.forall_mem_append] at exact
    have first := restores.1 scope levels.1 exact.1
    have others := ih restores.2 levels.2 exact.2
    simp [membersOf, Reader.entryList, first, others, bind, Except.bind]

theorem restores_entries {write : α → Tree} {entries : List (String × α)}
    (restores : ∀ entry ∈ entries, Restores reader (write entry.2) entry.2) :
    Restores (Reader.entries reader)
      (.record (entries.map fun entry => (entry.1, write entry.2))) entries := by
  intro scope levels exact
  rcases exists_enter levels with ⟨inner, enters, inside⟩
  have taken := entryList_membersOf restores inside exact
  simp [sourceOf, Reader.entries, Source.untagged, enters, taken, checkFlaw, bind, Except.bind]

/-! ### Records -/

/-- Whether a field of a record is written as some fields, one or none, which restore its value. -/
inductive Writes (field : Data.Field α) : List (String × Tree) → Option α → Prop
  | absent : Writes field [] none
  | present {tree : Tree} {value : α} (restores : Restores field.reader tree value) :
    Writes field [(field.name, tree)] (some value)

/-- Whether the fields in a layout are found as they were written, and none has another name. -/
structure Finds (layout : Layout σ) (names : List String) (fields : List (String × Tree))
    (found : σ) : Prop where
  named : ∀ field ∈ fields, field.1 ∈ names
  collected : ∀ scope : Scope, Tree.depthOfFields fields ≤ scope.levels →
    (∀ x ∈ Tree.realsOfFields fields, ReadsBack x) →
      layout.collect scope layout.empty (membersOf fields) = .ok found

theorem finds_nil : Finds Layout.nil [] [] () where
  named := by simp
  collected _ _ _ := rfl

theorem put_cons_of_ne {field : Data.Field α} (layout : Layout σ) (scope : Scope) (own : Option α)
    (found : σ) (other : name ≠ field.name) :
    (Layout.cons field layout).put name scope (own, found) =
      (layout.put name scope found).map fun outcome =>
        outcome.map fun store => fun source => (store source).map (own, ·) := by
  simp [Layout.cons, other]

theorem put_cons_self (field : Data.Field α) (layout : Layout σ) (scope : Scope) :
    (Layout.cons field layout).put field.name scope (Layout.cons field layout).empty =
      some (.ok fun source =>
        (field.reader scope source).map fun value => (some value, layout.empty)) := by
  simp [Layout.cons]

/-- Fields of other names are found by the rest of the layout. -/
theorem collect_cons {field : Data.Field α} {layout : Layout σ} {scope : Scope} (own : Option α)
    (found : σ) {fields : List (String × Tree)} (others : ∀ other ∈ fields, other.1 ≠ field.name) :
    (Layout.cons field layout).collect scope (own, found) (membersOf fields) =
      (layout.collect scope found (membersOf fields)).map (own, ·) := by
  induction fields generalizing found with
  | nil => rfl
  | cons other fields ih =>
    rcases other with ⟨name, tree⟩
    rw [List.forall_mem_cons] at others
    simp only [membersOf, Layout.collect, text_ofString, bind, Except.bind,
      put_cons_of_ne layout scope own found others.1]
    cases layout.put name scope found with
    | none =>
      simp only [Option.map_none, ih found others.2]
      cases (sourceOf tree).skip <;> rfl
    | some outcome =>
      cases outcome with
      | error failure => rfl
      | ok store =>
        simp only [Option.map_some, Except.map]
        cases store (sourceOf tree) with
        | error failure => rfl
        | ok next => exact ih next others.2

theorem finds_cons {field : Data.Field α} {layout : Layout σ} {names : List String}
    {own fields : List (String × Tree)} {value : Option α} {found : σ}
    (writes : Writes field own value) (others : Finds layout names fields found)
    (fresh : field.name ∉ names) :
    Finds (Layout.cons field layout) (field.name :: names) (own ++ fields) (value, found) := by
  have apart : ∀ other ∈ fields, other.1 ≠ field.name := by
    intro other among same
    exact fresh (same ▸ others.named other among)
  cases writes with
  | absent =>
    constructor
    · intro other among
      exact List.mem_cons_of_mem _ (others.named other among)
    · intro scope levels exact
      have collected := others.collected scope levels exact
      rw [List.nil_append, show (Layout.cons field layout).empty = (none, layout.empty) from rfl,
        collect_cons none layout.empty apart, collected]
      rfl
  | present restores =>
    constructor
    · rw [List.singleton_append, List.forall_mem_cons]
      refine ⟨List.mem_cons_self, ?_⟩
      intro other among
      exact List.mem_cons_of_mem _ (others.named other among)
    · intro scope levels exact
      rw [List.singleton_append, Tree.depthOfFields, max_le_iff] at levels
      rw [List.singleton_append, Tree.realsOfFields, List.forall_mem_append] at exact
      have taken := restores scope levels.1 exact.1
      have collected := others.collected scope levels.2 exact.2
      simp only [List.singleton_append, membersOf, Layout.collect, text_ofString, bind,
        Except.bind, put_cons_self, taken, Except.map, collect_cons _ _ apart, collected]

theorem restores_record {layout : Layout σ} {assemble : Layout.Form → σ → Except ReadError α}
    {names : List String} {fields : List (String × Tree)} {found : σ}
    (finds : Finds layout names fields found) (assembled : assemble .named found = .ok value) :
    Restores (Reader.record layout assemble) (.record fields) value := by
  intro scope levels exact
  rcases exists_enter levels with ⟨inner, enters, inside⟩
  have collected := finds.collected inner inside exact
  simp [sourceOf, Reader.record, Layout.reader, Source.untagged, enters, collected, checkFlaw,
    assembled, bind, Except.bind]

theorem writes_field (restores : Restores reader tree value) :
    Writes ⟨name, reader⟩ (Tree.field name tree) (some value) :=
  .present restores

theorem writes_optional {write : α → Tree} {own : Option α}
    (restores : ∀ value ∈ own, write value ≠ .null ∧ Restores reader (write value) value) :
    Writes ⟨name, .orNull reader⟩ (Tree.optional name write own) (own.map some) := by
  cases own with
  | none => exact .absent
  | some value =>
    rcases restores value rfl with ⟨present, restores⟩
    exact .present (restores_orNull present restores)

/-- The value of a list that is left out when it is empty. -/
def unlessEmpty : List α → Option (List α)
  | [] => none
  | items => some items

theorem getD_unlessEmpty (items : List α) : (unlessEmpty items).getD [] = items := by
  cases items <;> rfl

theorem writes_nonempty {write : α → Tree} {items : List α}
    (restores : ∀ item ∈ items, Restores reader (write item) item) :
    Writes ⟨name, .list reader⟩ (Tree.nonempty name write items) (unlessEmpty items) := by
  cases items with
  | nil => exact .absent
  | cons item items => exact .present (restores_list_map restores)

@[simp]
theorem orAbsent_map (own : Option α) : Layout.orAbsent .named (own.map some) = .ok own := by
  cases own <;> rfl

@[simp]
theorem required_some (value : α) : Layout.required .named name (some value) = .ok value :=
  rfl

/-! ### Alternatives in two fields -/

theorem restores_alone {layout : PairLayout α}
    (known : layout.alternatives.lookup name = some (.alone value)) :
    Restores layout.reader (.record [(layout.kindName, .text name)]) value := by
  intro scope levels _
  rcases exists_enter levels with ⟨inner, enters, -⟩
  simp [sourceOf, membersOf, PairLayout.reader, PairLayout.collect, PairLayout.takeKind,
    PairLayout.finish, Source.untagged, Reader.choice, findVariant, known, enters, checkFlaw, bind,
    Except.bind, Except.map]

theorem restores_withContent {layout : PairLayout α}
    (known : layout.alternatives.lookup name = some (.withContent reader))
    (apart : layout.contentName ≠ layout.kindName) (restores : Restores reader tree value) :
    Restores layout.reader
      (.record [(layout.kindName, .text name), (layout.contentName, tree)]) value := by
  intro scope levels exact
  rcases exists_enter levels with ⟨inner, enters, inside⟩
  have taken : reader inner (sourceOf tree) = .ok value := by
    refine restores inner ?_ ?_
    · simpa [Tree.depthOfFields, Tree.depth] using inside
    · simpa [Tree.reals, Tree.realsOfFields] using exact
  simp [sourceOf, membersOf, PairLayout.reader, PairLayout.collect, PairLayout.takeKind,
    PairLayout.takeContent, PairLayout.finish, Source.untagged, Reader.choice, findVariant, known,
    apart, taken, Alternative.read, enters, checkFlaw, bind, Except.bind, Except.map]

end ClientGen.Json

import ClientGen.Proofs.Collections.Reach
import ClientGen.Proofs.Model.Places
import ClientGen.Proofs.Model.Sources

/-!
# Classes that clients may send

Whoever sends an object sends the objects that it holds as well. So of some classes that are sent,
all those have to be unlocked to which a path of such properties leads, and no others. A search for
them that passes over what is unlocked already finds all of them only if nothing is missing behind
an unlocked class: being exact is what makes it possible to stay exact.
-/

namespace ClientGen

open Relation (ReflTransGen)

/-! ### Where paths begin and where they lead -/

/-- Whether sending a value means to send objects of a class: those that the value consists of, or
those that one of its type arguments stands for. -/
inductive Shape.Sends {ρ : Type} : Shape ρ → ρ → Prop
  | own {shape : Shape ρ} {reference : ρ} (isObject : shape.kind = .object)
    (refers : shape.reference = some reference) : Sends shape reference
  | argument {shape argument : Shape ρ} {arguments : List (Shape ρ)} {reference : ρ}
    (given : shape.arguments = some arguments) (among : argument ∈ arguments)
    (sends : Sends argument reference) : Sends shape reference

namespace Shape

variable {ρ : Type} {reference : ρ}

mutual

theorem sends_of_mem_objectReferences :
    ∀ shape : Shape ρ, reference ∈ shape.objectReferences → shape.Sends reference
  | ⟨kind, own, layers, nullable, optional, arguments, parameterName, alternatives⟩, among => by
    rw [objectReferences, List.mem_append] at among
    rcases among with isOwn | inside
    · split at isOwn
      · next isObject => exact .own isObject (Option.mem_toList.mp isOwn)
      · cases isOwn
    · rcases exists_sends_of_mem_objectReferencesOption arguments inside with
        ⟨given, same, argument, isGiven, sends⟩
      exact .argument same isGiven sends

theorem exists_sends_of_mem_objectReferencesOption :
    ∀ shapes : Option (List (Shape ρ)), reference ∈ objectReferencesOption shapes →
      ∃ given, shapes = some given ∧ ∃ shape ∈ given, shape.Sends reference
  | none, among => nomatch among
  | some shapes, among => ⟨shapes, rfl, exists_sends_of_mem_objectReferencesList shapes among⟩

theorem exists_sends_of_mem_objectReferencesList :
    ∀ shapes : List (Shape ρ), reference ∈ objectReferencesList shapes →
      ∃ shape ∈ shapes, shape.Sends reference
  | [], among => nomatch among
  | shape :: shapes, among => by
    rcases List.mem_append.mp among with first | later
    · exact ⟨shape, List.mem_cons_self, sends_of_mem_objectReferences shape first⟩
    · rcases exists_sends_of_mem_objectReferencesList shapes later with ⟨other, isLater, sends⟩
      exact ⟨other, List.mem_cons_of_mem _ isLater, sends⟩

end

theorem mem_objectReferencesList {shape : Shape ρ} {shapes : List (Shape ρ)}
    (among : shape ∈ shapes) (own : reference ∈ shape.objectReferences) :
    reference ∈ objectReferencesList shapes := by
  induction shapes with
  | nil => cases among
  | cons first shapes ih =>
    rw [objectReferencesList, List.mem_append]
    rcases List.mem_cons.mp among with rfl | later
    · exact Or.inl own
    · exact Or.inr (ih later)

theorem mem_objectReferences_iff_sends {shape : Shape ρ} :
    reference ∈ shape.objectReferences ↔ shape.Sends reference := by
  constructor
  · exact sends_of_mem_objectReferences shape
  · intro sends
    induction sends with
    | @own shape _ isObject refers =>
      rcases shape with ⟨kind, own, _, _, _, arguments, _, _⟩
      rw [objectReferences, if_pos isObject]
      exact List.mem_append_left _ (Option.mem_toList.mpr refers)
    | @argument shape _ _ _ given among _ ih =>
      rcases shape with ⟨kind, own, _, _, _, arguments, _, _⟩
      cases given
      exact List.mem_append_right _ (mem_objectReferencesList among ih)

variable {σ : Type} {name? : ρ → Option σ} {shape : Shape ρ} {result : Shape σ} {name : σ}

theorem exists_sends_name (named : shape.named? name? = some result)
    (sends : shape.Sends reference) : ∃ name, name? reference = some name ∧ result.Sends name := by
  rcases exists_of_mem_left (objectReferences_named? shape named)
    (mem_objectReferences_iff_sends.mpr sends) with ⟨name, among, isName⟩
  exact ⟨name, isName, mem_objectReferences_iff_sends.mp among⟩

theorem exists_sends_reference (named : shape.named? name? = some result)
    (sends : result.Sends name) :
    ∃ reference, name? reference = some name ∧ shape.Sends reference := by
  rcases exists_of_mem_right (objectReferences_named? shape named)
    (mem_objectReferences_iff_sends.mpr sends) with ⟨reference, among, isName⟩
  exact ⟨reference, isName, mem_objectReferences_iff_sends.mp among⟩

end Shape

namespace ClassTable

variable {table earlier later : ClassTable ClassId} {place id holder held : ClassId}
  {entry : ClassEntry ClassId} {starts : List ClassId}

/-- Whether objects of one class hold objects of another one as values of a property. -/
def HoldsObject (table : ClassTable ClassId) (holder held : ClassId) : Prop :=
  ∃ entry, table.at? holder = some entry ∧ ∃ property ∈ entry.properties,
    property.shape.kind = .object ∧ property.shape.reference = some held

/-- Whether there is a class at a place that clients may send. -/
def IsWritable (table : ClassTable ClassId) (place : ClassId) : Prop :=
  ∃ entry, table.at? place = some entry ∧ entry.isReadOnly = false

theorem mem_objectEdges_iff : held ∈ table.objectEdges holder ↔ table.HoldsObject holder held := by
  unfold objectEdges HoldsObject
  cases found : table.at? holder with
  | none => simp
  | some entry => simp [List.mem_filterMap]

theorem HoldsObject.lt_size (holds : table.HoldsObject holder held) : holder < table.size := by
  rcases holds with ⟨entry, found, -⟩
  exact isSome_at?_iff.mp (Option.isSome_of_eq_some found)

theorem IsWritable.lt_size (writable : table.IsWritable place) : place < table.size := by
  rcases writable with ⟨entry, found, -⟩
  exact isSome_at?_iff.mp (Option.isSome_of_eq_some found)

theorem isWritable_iff_of_at? (found : table.at? place = some entry) :
    table.IsWritable place ↔ entry.isReadOnly = false := by
  constructor
  · rintro ⟨other, foundToo, unlocked⟩
    rw [found] at foundToo
    cases foundToo
    exact unlocked
  · intro unlocked
    exact ⟨entry, found, unlocked⟩

theorem mem_writableIndices_iff : place ∈ table.writableIndices ↔ table.IsWritable place := by
  rw [writableIndices, List.mem_filter, List.mem_range, Option.any_eq_true]
  constructor
  · rintro ⟨-, entry, found, unlocked⟩
    exact ⟨entry, found, by simpa using unlocked⟩
  · intro writable
    refine ⟨writable.lt_size, ?_⟩
    rcases writable with ⟨entry, found, unlocked⟩
    exact ⟨entry, found, by simp [unlocked]⟩

theorem SameButLocks.holdsObject (same : SameButLocks earlier later)
    (holds : later.HoldsObject holder held) : earlier.HoldsObject holder held := by
  rcases holds with ⟨entry, found, held⟩
  rcases same.at?_eq_some found with ⟨old, oldFound, onlyLock⟩
  rw [onlyLock] at held
  exact ⟨old, oldFound, held⟩

theorem SameButLocks.holdsObject_eq (same : SameButLocks earlier later) :
    later.HoldsObject = earlier.HoldsObject := by
  funext holder held
  exact propext ⟨same.holdsObject, same.symm.holdsObject⟩

/-! ### Unlocking -/

@[simp]
theorem size_unlock {indices : List Nat} : (table.unlock indices).size = table.size := by
  simp [unlock, size]

theorem at?_unlock {indices : List Nat} :
    (table.unlock indices).at? place = (table.at? place).map fun entry =>
      if place ∈ indices then { entry with isReadOnly := false } else entry := by
  simp [at?, unlock, Function.comp_def]

theorem isWritable_unlock_iff {indices : List Nat} :
    (table.unlock indices).IsWritable place ↔
      (place < table.size ∧ place ∈ indices) ∨ table.IsWritable place := by
  constructor
  · rintro ⟨entry, found, unlocked⟩
    rw [at?_unlock, Option.map_eq_some_iff] at found
    rcases found with ⟨old, oldFound, rfl⟩
    by_cases marked : place ∈ indices
    · exact Or.inl ⟨isSome_at?_iff.mp (Option.isSome_of_eq_some oldFound), marked⟩
    · rw [if_neg marked] at unlocked
      exact Or.inr ⟨old, oldFound, unlocked⟩
  · rintro (⟨within, marked⟩ | ⟨old, oldFound, unlocked⟩)
    · rcases Option.isSome_iff_exists.mp (isSome_at?_iff.mpr within) with ⟨old, oldFound⟩
      refine ⟨{ old with isReadOnly := false }, ?_, rfl⟩
      rw [at?_unlock, oldFound, Option.map_some, if_pos marked]
    · refine ⟨if place ∈ indices then { old with isReadOnly := false } else old, ?_, ?_⟩
      · rw [at?_unlock, oldFound, Option.map_some]
      · split
        · rfl
        · exact unlocked

/-- Whether no class holds objects of a class that is missing. -/
def Confined (table : ClassTable ClassId) : Prop :=
  ∀ holder held, table.HoldsObject holder held → held < table.size

/-- Whether the classes that clients may send are those to which paths lead from some places. -/
def Exact (table : ClassTable ClassId) (starts : List ClassId) : Prop :=
  ∀ place, table.IsWritable place ↔
    ∃ start ∈ starts, ReflTransGen table.HoldsObject start place

theorem Confined.spans (confined : table.Confined) :
    Spans table.objectEdges (List.range table.size) := by
  intro holder _ held edge
  exact Or.inl (List.mem_range.mpr (confined holder held (mem_objectEdges_iff.mp edge)))

theorem Confined.lt_size_of_path (confined : table.Confined) (within : id < table.size)
    (path : ReflTransGen table.HoldsObject id place) : place < table.size := by
  cases path with
  | refl => exact within
  | tail _ last => exact confined _ _ last

/-- Behind what was unlocked nothing is missing. -/
theorem Exact.closed (exact : table.Exact starts) (writable : table.IsWritable holder)
    (holds : table.HoldsObject holder held) : table.IsWritable held := by
  rcases (exact holder).mp writable with ⟨start, among, path⟩
  exact (exact held).mpr ⟨start, among, path.tail holds⟩

/-- What the search for further classes finds, together with what was unlocked before, has nothing
missing behind it either. -/
theorem Exact.closed_reach (exact : table.Exact starts) (confined : table.Confined)
    (within : id < table.size) :
    ∀ holder ∈ reach table.objectEdges (table.size + 1) table.writableIndices id, ∀ held,
      table.HoldsObject holder held →
        held ∈ reach table.objectEdges (table.size + 1) table.writableIndices id := by
  intro holder found held holds
  by_cases old : holder ∈ table.writableIndices
  · have writable := exact.closed (mem_writableIndices_iff.mp old) holds
    exact subset_reach _ _ (mem_writableIndices_iff.mpr writable)
  · have room := unseen_le_length (List.range table.size) table.writableIndices
    rw [List.length_range] at room
    have tried := ClientGen.closed_reach confined.spans (Or.inl (List.mem_range.mpr within))
      (Nat.lt_succ_of_le room) holder found old
    exact tried (mem_objectEdges_iff.mpr holds)

theorem Exact.makeWritable (exact : table.Exact starts) (confined : table.Confined)
    (within : id < table.size) : (table.makeWritable id).Exact (starts ++ [id]) := by
  intro place
  rw [ClassTable.makeWritable, (sameButLocks_unlock _).holdsObject_eq, isWritable_unlock_iff]
  constructor
  · rintro (⟨-, found⟩ | old)
    -- The search starts from what is unlocked, so it also finds what earlier starts lead to.
    · rcases reachable_of_mem_reach found with old | path
      · rcases (exact place).mp (mem_writableIndices_iff.mp old) with ⟨start, among, path⟩
        exact ⟨start, List.mem_append_left _ among, path⟩
      · refine ⟨id, List.mem_append_right _ List.mem_cons_self, ?_⟩
        exact ReflTransGen.mono (fun _ _ edge => mem_objectEdges_iff.mp edge) _ _ path
    · rcases (exact place).mp old with ⟨start, among, path⟩
      exact ⟨start, List.mem_append_left _ among, path⟩
  · rintro ⟨start, among, path⟩
    rcases List.mem_append.mp among with before | own
    · exact Or.inr ((exact place).mpr ⟨start, before, path⟩)
    · cases List.mem_singleton.mp own
      refine Or.inl ⟨confined.lt_size_of_path within path, ?_⟩
      induction path with
      | refl => exact mem_reach_self (Nat.zero_lt_succ _)
      | tail _ last ih => exact exact.closed_reach confined within _ ih _ last

theorem Exact.makeWritableAll (exact : table.Exact starts) (confined : table.Confined)
    {ids : List ClassId} (within : ∀ id ∈ ids, id < table.size) :
    (ids.foldl (fun types id => types.makeWritable id) table).Exact (starts ++ ids) := by
  induction ids generalizing table starts with
  | nil =>
    rw [List.append_nil]
    exact exact
  | cons id ids ih =>
    have same : SameButLocks table (table.makeWritable id) := sameButLocks_unlock _
    have sameSize : (table.makeWritable id).size = table.size := size_unlock
    rw [List.append_cons]
    refine ih (exact.makeWritable confined (within id List.mem_cons_self)) ?_ ?_
    · rw [Confined, same.holdsObject_eq, sameSize]
      exact confined
    · rw [sameSize]
      intro other among
      exact within other (List.mem_cons_of_mem _ among)

/-! ### Growth -/

theorem holdsObject_iff_of_grown (grown : earlier.entries <+: later.entries)
    (within : holder < earlier.size) :
    later.HoldsObject holder held ↔ earlier.HoldsObject holder held := by
  rw [HoldsObject, HoldsObject, at?_eq_of_prefix grown within]

/-- New classes that are locked lead nowhere new, since none of the old ones holds them. -/
theorem Exact.of_prefix (exact : earlier.Exact starts)
    (grown : earlier.entries <+: later.entries)
    (locked : ∀ place, later.IsWritable place → earlier.IsWritable place) :
    later.Exact starts := by
  intro place
  constructor
  · intro writable
    rcases (exact place).mp (locked place writable) with ⟨start, among, path⟩
    refine ⟨start, among, ReflTransGen.mono ?_ _ _ path⟩
    intro holder held holds
    exact (holdsObject_iff_of_grown grown holds.lt_size).mpr holds
  · rintro ⟨start, among, path⟩
    -- A path that begins at an old class does not leave the old ones, which are closed.
    have before : earlier.IsWritable place := by
      induction path with
      | refl => exact (exact start).mpr ⟨start, among, .refl⟩
      | tail _ last ih =>
        exact exact.closed ih ((holdsObject_iff_of_grown grown ih.lt_size).mp last)
    rcases before with ⟨entry, found, unlocked⟩
    exact ⟨entry, at?_of_prefix grown found, unlocked⟩

end ClassTable

end ClientGen

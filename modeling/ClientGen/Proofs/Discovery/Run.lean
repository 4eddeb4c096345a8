import ClientGen.Proofs.Discovery.Entering

/-!
# Runs of a discovery

Whatever is asked of a discovery, and in whatever order, between two calls every class in the table
is as outlined for the declaration that it names as its source. Together with the fact that a place
keeps its name this says that a discovery answers as if it had no past: the shape that it returns is
the one that the catalog gives the type expression, for good.
-/

namespace ClientGen

/-- Something that is asked of a discovery. -/
inductive Call where
  | resolve (opened : List String) (version : Option String) (nullable : Bool) (type : TypeExpr)
  | makeWritable (shape : Shape ClassId)

namespace Call

/-- The declarations whose properties the caller is reading. -/
def opened : Call → List String
  | .resolve opened _ _ _ => opened
  | .makeWritable _ => []

/-- The discovery after a call. -/
def run (server : Server) (discovery : Discovery) : Call → Discovery
  | .resolve opened version nullable type =>
    (discovery.resolve server opened version nullable type).2
  | .makeWritable shape => discovery.makeWritable shape

end Call

namespace Discovery

/-- The discovery after some calls. -/
def run (server : Server) (calls : List Call) (discovery : Discovery) : Discovery :=
  calls.foldl (Call.run server) discovery

/-- Whether every class is as outlined for calls for which others are reading the `allowed`
declarations, and no class was looked for outside of the table. -/
structure Sound (server : Server) (allowed : List String → Prop) (discovery : Discovery) :
    Prop where
  lawful : discovery.types.Lawful
  described : ∀ {place entry}, discovery.types.at? place = some entry →
    ∃ opened, allowed opened ∧ server.Describes opened discovery.types.nameAt? entry
  strayed : discovery.strayed = false

variable {server : Server} {allowed : List String → Prop} {discovery earlier later : Discovery}
  {opened : List String} {version : Option String} {nullable : Bool} {type : TypeExpr}

theorem Sound.empty : Sound server allowed {} where
  lawful := .empty
  described := by
    intro place entry found
    simp [ClassTable.at?] at found
  strayed := rfl

theorem Sound.of_extends (sound : Sound server allowed earlier) (isAllowed : allowed opened)
    (grown : Extends server opened earlier later) : Sound server allowed later where
  lawful := grown.lawful sound.lawful
  described := by
    intro place entry found
    by_cases old : place < earlier.types.size
    · rw [ClassTable.at?_eq_of_prefix grown.entries old] at found
      rcases sound.described found with ⟨before, wasAllowed, declaration, version, known, outlined⟩
      exact ⟨before, wasAllowed, declaration, version, known,
        ClassEntry.named?_mono (fun _ _ => grown.nameAt?) outlined⟩
    · exact ⟨opened, isAllowed, grown.described (Nat.le_of_not_lt old) found⟩
  strayed := grown.strayed.trans sound.strayed

theorem Sound.of_sameButLocks (sound : Sound server allowed earlier)
    (same : ClassTable.SameButLocks earlier.types later.types)
    (strayed : later.strayed = earlier.strayed) : Sound server allowed later where
  lawful := same.lawful sound.lawful
  described := by
    intro place entry found
    rcases same.at?_eq_some found with ⟨old, oldFound, onlyLock⟩
    rcases sound.described oldFound with ⟨before, wasAllowed, declaration, version, known, outlined⟩
    refine ⟨before, wasAllowed, declaration, version, known, ?_⟩
    rw [onlyLock, same.nameAt?]
    exact ClassEntry.named?_unlocked outlined entry.isReadOnly
  strayed := strayed.trans sound.strayed

/-- A member's shape is the one that the catalog gives it. -/
theorem placed_resolve (server : Server) (opened : List String) (version : Option String)
    (nullable : Bool) (type : TypeExpr) (lawful : discovery.types.Lawful) :
    Meaning.Placed server opened discovery
      (discovery.resolve server opened version nullable type)
      (server.catalog.memberShape nullable type) := by
  have ready : Ready server opened (discovery.remaining server) opened discovery :=
    ⟨lawful, Nat.le_refl _, fun _ among => .inl among⟩
  exact Meaning.placed_place (sound_enter (List.Subset.refl opened)) _ discovery
    (Meaning.known_orNull nullable (Catalog.known_meaningAt _ .top type)) ready

theorem sameButLocks_makeWritable (shape : Shape ClassId) (discovery : Discovery) :
    ClassTable.SameButLocks discovery.types (discovery.makeWritable shape).types := by
  rw [makeWritable]
  generalize discovery.types = table
  induction shape.objectReferences generalizing table with
  | nil => exact .refl table
  | cons id others ih =>
    exact (ClassTable.sameButLocks_unlock _).trans (ih (table.makeWritable id))

theorem Sound.resolve (sound : Sound server allowed discovery) (isAllowed : allowed opened) :
    Sound server allowed (discovery.resolve server opened version nullable type).2 :=
  sound.of_extends isAllowed
    (placed_resolve server opened version nullable type sound.lawful).grown

theorem Sound.makeWritable (sound : Sound server allowed discovery) (shape : Shape ClassId) :
    Sound server allowed (discovery.makeWritable shape) :=
  sound.of_sameButLocks (sameButLocks_makeWritable shape discovery) rfl

/-- What holds of a discovery between two calls. -/
theorem Sound.run (sound : Sound server allowed discovery) {calls : List Call}
    (areAllowed : ∀ call ∈ calls, allowed call.opened) :
    Sound server allowed (discovery.run server calls) := by
  induction calls generalizing discovery with
  | nil => exact sound
  | cons call calls ih =>
    have stepped : Sound server allowed (call.run server discovery) := by
      cases call with
      | resolve opened version nullable type =>
        exact sound.resolve (areAllowed _ List.mem_cons_self)
      | makeWritable shape => exact sound.makeWritable shape
    apply ih stepped
    intro other among
    exact areAllowed other (List.mem_cons_of_mem _ among)

/-- A place keeps its name. -/
theorem nameAt?_run (lawful : discovery.types.Lawful) {calls : List Call} {place : ClassId}
    {name : String} (named : discovery.types.nameAt? place = some name) :
    (discovery.run server calls).types.nameAt? place = some name := by
  induction calls generalizing discovery with
  | nil => exact named
  | cons call calls ih =>
    cases call with
    | resolve opened version nullable type =>
      have grown := (placed_resolve server opened version nullable type lawful).grown
      exact ih (grown.lawful lawful) (grown.nameAt? named)
    | makeWritable shape =>
      have same := sameButLocks_makeWritable shape discovery
      exact ih (same.lawful lawful) (by rw [← named, ← same.nameAt?]; rfl)

/-- The discovery that some calls lead to. -/
def after (server : Server) (calls : List Call) : Discovery :=
  run server calls {}

theorem sound_after {calls : List Call} (areAllowed : ∀ call ∈ calls, allowed call.opened) :
    Sound server allowed (after server calls) :=
  Sound.empty.run areAllowed

/-- Every property of a class is as outlined for a declared property. -/
theorem Sound.exists_outlineProperty (sound : Sound server allowed discovery)
    {entry : ClassEntry ClassId} (present : entry ∈ discovery.types.classes) :
    ∃ declaration, server.catalog.find? entry.sourceName = some declaration ∧
      ∀ property ∈ entry.properties, ∃ declared ∈ server.visibleProperties declaration,
        property.named? discovery.types.nameAt? = some (server.outlineProperty declared) := by
  rcases ClassTable.mem_classes_iff.mp present with ⟨place, found⟩
  rcases sound.described found with ⟨opened, -, described⟩
  rcases described.named?_body with ⟨declaration, known, body⟩
  refine ⟨declaration, known, ?_⟩
  intro property among
  rw [ClassEntry.properties] at among
  cases whole : entry.body with
  | enum values => simp [whole] at among
  | object properties =>
    rw [whole] at among body
    rcases Option.map_eq_some_iff.mp body with ⟨results, named, same⟩
    rcases ClassProperty.exists_of_mapM_named? named among with
      ⟨result, amongResults, propertyNamed⟩
    have outlined : result ∈
        (server.visibleProperties declaration).map server.outlineProperty := by
      split at same
      · cases same
      · cases same
        split at amongResults
        · cases amongResults
        · exact amongResults
    rcases List.mem_map.mp outlined with ⟨declared, visible, rfl⟩
    exact ⟨declared, visible, propertyNamed⟩

/-! ### Results -/

/-- A discovery answers as if it had no past. The shape of a member is, under the names of the
classes, the one that the catalog gives it, and stays so whatever is asked later on; and every
property of a class is the one that the server gives to a declared property. -/
theorem resolve_regardless_of_history (server : Server) (calls : List Call) :
    (∀ opened version nullable type later,
      let result := (after server calls).resolve server opened version nullable type
      result.1.named? (result.2.run server later).types.nameAt? =
        some (server.catalog.memberShape nullable type)) ∧
    ∀ entry ∈ (after server calls).types.classes, ∃ declaration,
      server.catalog.find? entry.sourceName = some declaration ∧
        ∀ property ∈ entry.properties, ∃ declared ∈ server.visibleProperties declaration,
          property.named? (after server calls).types.nameAt? =
            some (server.outlineProperty declared) := by
  have sound : Sound server (fun _ => True) (after server calls) := by
    apply sound_after
    intro call among
    trivial
  constructor
  · intro opened version nullable type later
    have placed := placed_resolve server opened version nullable type sound.lawful
    have lawful := placed.grown.lawful sound.lawful
    exact Shape.named?_mono (fun _ _ => nameAt?_run lawful) _ placed.named
  · intro entry present
    exact sound.exists_outlineProperty present

/-- Whether a class has everything that its declaration gives it: an object all properties that are
sent, one for one and in their order, and an enumeration all its members. An object without
properties has a declaration that sends none. -/
def Completes (server : Server) (name? : ClassId → Option String) (entry : ClassEntry ClassId) :
    Prop :=
  ∃ declaration, server.catalog.find? entry.sourceName = some declaration ∧
    match entry.body with
    | .object properties => declaration.isEnum = false ∧
        properties.mapM (ClassProperty.named? name?) =
          some ((server.visibleProperties declaration).map server.outlineProperty) ∧
        (properties = [] → server.visibleProperties declaration = [])
    | .enum values => declaration.isEnum = true ∧
        values = declaration.values.map (server.enumValue declaration)

/-- No class is left without its properties when nobody else is reading any. -/
theorem classes_complete (server : Server) (calls : List Call)
    (outermost : ∀ call ∈ calls, call.opened = []) :
    ∀ entry ∈ (after server calls).types.classes,
      Completes server (after server calls).types.nameAt? entry := by
  have sound : Sound server (· = []) (after server calls) := sound_after outermost
  intro entry present
  rcases ClassTable.mem_classes_iff.mp present with ⟨place, found⟩
  rcases sound.described found with ⟨opened, rfl, described⟩
  rcases described.named?_body with ⟨declaration, known, body⟩
  refine ⟨declaration, known, ?_⟩
  cases whole : entry.body with
  | object properties =>
    rw [whole] at body
    rcases Option.map_eq_some_iff.mp body with ⟨results, named, same⟩
    cases kind : declaration.isEnum with
    | true => simp [kind] at same
    | false =>
      simp only [kind, Bool.false_eq_true, if_false, List.not_mem_nil] at same
      cases same
      refine ⟨rfl, named, ?_⟩
      rintro rfl
      rw [List.mapM_nil] at named
      exact List.map_eq_nil_iff.mp (Option.some.inj named).symm
  | enum values =>
    rw [whole] at body
    cases kind : declaration.isEnum with
    | true =>
      simp only [kind, if_true, ClassBody.named?] at body
      cases body
      exact ⟨rfl, rfl⟩
    | false => simp [kind, ClassBody.named?] at body

/-- A server with a class that mentions itself and another one that mentions it in turn. -/
def cyclicServer : Server where
  catalog := Catalog.empty
    |>.insert
      { name := "Node"
        properties := [{ name := "Next", type := .named "Node" [], nullable := true },
          { name := "Tree", type := .named "Tree" [] }] }
    |>.insert { name := "Tree", properties := [{ name := "Root", type := .named "Node" [] }] }
  convention := .mvc

/-- A tree is asked for. -/
def cyclicCalls : List Call :=
  [.resolve [] none false (.named "Tree" [])]

theorem classes_complete_of_cycle :
    (∀ call ∈ cyclicCalls, call.opened = []) ∧
      ∀ entry ∈ (after cyclicServer cyclicCalls).types.classes,
        Completes cyclicServer (after cyclicServer cyclicCalls).types.nameAt? entry :=
  have outermost : ∀ call ∈ cyclicCalls, call.opened = [] := by simp [cyclicCalls, Call.opened]
  ⟨outermost, classes_complete cyclicServer cyclicCalls outermost⟩

end Discovery

end ClientGen

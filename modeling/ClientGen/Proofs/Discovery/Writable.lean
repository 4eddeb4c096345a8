import ClientGen.Proofs.Discovery.Reading
import ClientGen.Proofs.Model.Writable

/-!
# What a survey unlocks

Between two calls no class holds objects of a class that is missing. The search for classes adds
only locked ones, and unlocking follows all paths from what is sent; so the classes that are
unlocked stay exactly those to which paths lead from the bodies of the requests read so far, in
whatever order these are read and however the classes refer to each other.
-/

namespace ClientGen

@[simp]
theorem Server.isReadOnly_newEntry {ρ : Type} {server : Server} {version : Option String}
    {declaration : Declaration} :
    (server.newEntry version declaration : ClassEntry ρ).isReadOnly = true := by
  simp only [newEntry, apply_ite ClassEntry.isReadOnly, ite_self]

namespace Discovery

variable {server : Server} {meant : Declaration → Prop} {allowed : List String → Prop}
  {members : List Member} {shapes sent : List (Shape ClassId)}
  {discovery earlier later : Discovery} {place : ClassId} {starts : List ClassId}

open Relation (ReflTransGen)

theorem Sound.confined (sound : Sound server allowed discovery) : discovery.types.Confined := by
  rintro holder held ⟨entry, found, property, among, -, refers⟩
  rcases sound.exists_outlineProperty (ClassTable.mem_classes_iff.mpr ⟨holder, found⟩) with
    ⟨declaration, -, outlined⟩
  rcases outlined property among with ⟨declared, -, named⟩
  have referenceNamed := Shape.reference_of_named? (ClassProperty.shape_of_named? named)
  rw [refers] at referenceNamed
  rcases Option.map_eq_some_iff.mp referenceNamed with ⟨name, isNamed, -⟩
  exact ClassTable.lt_size_of_nameAt? isNamed

/-- The classes of objects in a shape that has a name for each of them are in the table. -/
theorem lt_size_of_mem_objectReferences {shape : Shape ClassId} {result : Shape String}
    (named : shape.named? discovery.types.nameAt? = some result)
    (among : place ∈ shape.objectReferences) : place < discovery.types.size := by
  rcases exists_of_mem_left (Shape.objectReferences_named? shape named) among with
    ⟨name, -, isNamed⟩
  exact ClassTable.lt_size_of_nameAt? isNamed

/-! ### Searching -/

/-- No step of the search unlocks anything. -/
theorem Step.isWritable (step : Step server meant earlier later)
    (writable : later.types.IsWritable place) : earlier.types.IsWritable place := by
  rcases writable with ⟨entry, found, unlocked⟩
  cases step with
  | note notice => exact ⟨entry, found, unlocked⟩
  | meet =>
    rw [types_meet] at found
    exact ⟨entry, found, unlocked⟩
  | register version _ fresh =>
    rcases at?_register_eq_some version fresh found with old | new
    · exact ⟨entry, old, unlocked⟩
    · rw [new, Server.isReadOnly_newEntry] at unlocked
      cases unlocked
  | fill properties isThere =>
    rw [fill_of_at? isThere] at found
    rcases ClassTable.at?_fill_eq_some found with ⟨rfl, old, oldFound, rfl⟩ | unchanged
    · rw [ClassEntry.isReadOnly_withProperties] at unlocked
      exact ⟨old, oldFound, unlocked⟩
    · exact ⟨entry, unchanged, unlocked⟩

theorem isWritable_resolve (lawful : discovery.types.Lawful) (opened : List String)
    (version : Option String) (nullable : Bool) (type : TypeExpr)
    (writable : (discovery.resolve server opened version nullable type).2.types.IsWritable place) :
    discovery.types.IsWritable place := by
  have steps : ReflTransGen (Step server fun _ => True) discovery
      (discovery.resolve server opened version nullable type).2 :=
    (follows_resolve lawful opened version nullable type).steps lawful
      (fun _ _ _ _ => trivial) (fun _ _ => trivial)
  generalize (discovery.resolve server opened version nullable type).2 = later at steps writable
  induction steps with
  | refl => exact writable
  | tail _ last ih => exact ih (last.isWritable writable)

/-! ### Reading -/

theorem Reads.exact (reads : Reads server members shapes sent earlier later)
    (sound : Sound server (· = []) earlier) (exact : earlier.types.Exact starts) :
    later.types.Exact (starts ++ sent.flatMap Shape.objectReferences) := by
  induction reads generalizing starts with
  | nothing =>
    rw [List.flatMap_nil, List.append_nil]
    exact exact
  | member version nullable type _ ih =>
    have grown := (placed_resolve server [] version nullable type sound.lawful).grown
    refine ih (sound.resolve rfl) (exact.of_prefix grown.entries ?_)
    intro place writable
    exact isWritable_resolve sound.lawful [] version nullable type writable
  | sent named _ ih =>
    rw [List.flatMap_cons, ← List.append_assoc]
    refine ih (sound.makeWritable _) (exact.makeWritableAll sound.confined ?_)
    intro id among
    exact lt_size_of_mem_objectReferences named among

end Discovery

namespace Survey

open Relation (ReflTransGen)

theorem exact_ofControllers (server : Server) (declarations : List Declaration) :
    let survey := ofControllers server declarations
    survey.discovery.types.Exact (survey.sent.flatMap Shape.objectReferences) := by
  have start : ({} : Discovery).types.Exact [] := by
    intro place
    simp [ClassTable.IsWritable, ClassTable.at?]
  exact (reads_ofControllers server declarations).exact .empty start

theorem isWritable_iff_path (server : Server) (declarations : List Declaration) (place : ClassId) :
    let survey := ofControllers server declarations
    survey.discovery.types.IsWritable place ↔
      ∃ shape ∈ survey.sent, ∃ start, shape.Sends start ∧
        ReflTransGen survey.discovery.types.HoldsObject start place := by
  refine (exact_ofControllers server declarations place).trans ?_
  simp only [List.mem_flatMap, Shape.mem_objectReferences_iff_sends]
  constructor
  · rintro ⟨start, ⟨shape, isSent, sends⟩, path⟩
    exact ⟨shape, isSent, start, sends, path⟩
  · rintro ⟨shape, isSent, start, sends, path⟩
    exact ⟨start, ⟨shape, isSent, sends⟩, path⟩

/-- In the model of a server clients may send exactly those classes to which a path of properties
leads from the body of some request, however many controllers are read and in whatever order. -/
theorem isWritable_iff_path_of_body (server : Server) (declarations : List Declaration) :
    let model := (ofControllers server declarations).model
    ∀ place, model.types.IsWritable place ↔
      ∃ controller ∈ model.controllers, ∃ action ∈ controller.actions,
        ∃ parameter ∈ action.parameters, parameter.position = .body ∧
          ∃ start, parameter.shape.Sends start ∧
            ReflTransGen model.types.HoldsObject start place := by
  intro model place
  refine (isWritable_iff_path server declarations place).trans ?_
  constructor
  · rintro ⟨shape, isSent, start, sends, path⟩
    rcases mem_bodyShapes_iff.mp isSent with
      ⟨controller, isRead, action, isAction, parameter, isParameter, inBody, rfl⟩
    exact ⟨controller, isRead, action, isAction, parameter, isParameter, inBody, start, sends, path⟩
  · rintro ⟨controller, isRead, action, isAction, parameter, isParameter, inBody, start, sends, path⟩
    have isSent := mem_bodyShapes_iff.mpr
      ⟨controller, isRead, action, isAction, parameter, isParameter, inBody, rfl⟩
    exact ⟨parameter.shape, isSent, start, sends, path⟩

end Survey

end ClientGen

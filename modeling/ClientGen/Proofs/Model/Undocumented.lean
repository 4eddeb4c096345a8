import ClientGen.Model.Service
import Mathlib.Data.List.Basic

/-!
# Models without their documentation

Documentation is kept next to what it is about. Leaving it out changes no name, no place and no
reference, so everything that is done with a table of classes can as well be done with the table
whose documentation was left out before.
-/

namespace ClientGen

variable {ρ : Type}

/-! ### Leaving documentation out -/

def ClassProperty.undocumented (property : ClassProperty ρ) : ClassProperty ρ :=
  { property with documentation := none }

def EnumValue.undocumented (value : EnumValue) : EnumValue :=
  { value with documentation := none }

def ClassBody.undocumented : ClassBody ρ → ClassBody ρ
  | .object properties => .object (properties.map ClassProperty.undocumented)
  | .enum values => .enum (values.map EnumValue.undocumented)

def ClassEntry.undocumented (entry : ClassEntry ρ) : ClassEntry ρ :=
  { entry with documentation := none, body := entry.body.undocumented }

def ClassTable.undocumented (table : ClassTable ρ) : ClassTable ρ :=
  ⟨table.entries.map fun entry => (entry.1, entry.2.undocumented)⟩

def ActionParameter.undocumented (parameter : ActionParameter ρ) : ActionParameter ρ :=
  { parameter with documentation := none }

def Payload.undocumented (payload : Payload ρ) : Payload ρ :=
  { payload with documentation := none }

def Action.undocumented (action : Action ρ) : Action ρ :=
  { action with
    documentation := none
    parameters := action.parameters.map ActionParameter.undocumented
    payload := action.payload.map Payload.undocumented }

def Controller.undocumented (controller : Controller ρ) : Controller ρ :=
  { controller with
    documentation := none
    actions := controller.actions.map Action.undocumented }

/-- A model without any of the documentation in it. -/
def ServiceModel.undocumented (model : ServiceModel ρ) : ServiceModel ρ :=
  { model with
    controllers := model.controllers.map Controller.undocumented
    types := model.types.undocumented }

/-! ### Classes -/

@[simp]
theorem ClassEntry.properties_undocumented (entry : ClassEntry ρ) :
    entry.undocumented.properties = entry.properties.map ClassProperty.undocumented := by
  rcases entry with ⟨name, sourceName, documentation, _ | _⟩ <;> rfl

theorem ClassEntry.undocumented_withProperties (entry : ClassEntry ρ)
    (properties : List (ClassProperty ρ)) :
    (entry.withProperties properties).undocumented =
      entry.undocumented.withProperties (properties.map ClassProperty.undocumented) := by
  rcases entry with ⟨name, sourceName, documentation, _ | _⟩ <;> rfl

namespace ClassTable

variable (table : ClassTable ρ)

@[simp]
theorem indexOf?_undocumented (name : String) :
    table.undocumented.indexOf? name = table.indexOf? name := by
  rcases table with ⟨entries⟩
  unfold undocumented indexOf?
  induction entries with
  | nil => rfl
  | cons entry entries ih => simp only [List.map_cons, Ordered.indexOf?, ih]

@[simp]
theorem at?_undocumented (index : Nat) :
    table.undocumented.at? index = (table.at? index).map ClassEntry.undocumented := by
  simp only [at?, undocumented, List.getElem?_map, Option.map_map]
  rfl

@[simp]
theorem size_undocumented : table.undocumented.size = table.size := by
  simp [size, undocumented]

@[simp]
theorem placeFor_undocumented (name : String) :
    table.undocumented.placeFor name = table.placeFor name := by
  simp [placeFor]

theorem undocumented_register (entry : ClassEntry ρ) :
    (table.register entry).undocumented = table.undocumented.register entry.undocumented := by
  rcases table with ⟨entries⟩
  have inserted : (Ordered.insert entry.name entry entries).map
        (fun stored => (stored.1, stored.2.undocumented)) =
      Ordered.insert entry.name entry.undocumented
        (entries.map fun stored => (stored.1, stored.2.undocumented)) := by
    induction entries with
    | nil => rfl
    | cons first others ih =>
      by_cases same : first.1 = entry.name
      · simp [Ordered.insert, same]
      · simpa [Ordered.insert, same] using ih
  exact congrArg mk inserted

theorem undocumented_fill (index : Nat) (properties : List (ClassProperty ρ)) :
    (table.fill index properties).undocumented =
      table.undocumented.fill index (properties.map ClassProperty.undocumented) := by
  rcases table with ⟨entries⟩
  simp only [fill, undocumented, mk.injEq]
  apply List.ext_getElem?
  intro place
  simp only [List.getElem?_map, List.getElem?_modify]
  cases entries[place]? with
  | none => simp
  | some entry => by_cases same : index = place <;>
      simp [same, ClassEntry.undocumented_withProperties]

theorem undocumented_unlock (indices : List Nat) :
    (table.unlock indices).undocumented = table.undocumented.unlock indices := by
  rcases table with ⟨entries⟩
  simp only [unlock, undocumented, mk.injEq]
  apply List.ext_getElem?
  intro place
  simp only [List.getElem?_map, List.getElem?_mapIdx]
  cases entries[place]? with
  | none => rfl
  | some entry => by_cases among : place ∈ indices <;> simp [among, ClassEntry.undocumented]

theorem objectEdges_undocumented (table : ClassTable ClassId) :
    table.undocumented.objectEdges = table.objectEdges := by
  funext index
  simp only [objectEdges, at?_undocumented]
  cases table.at? index with
  | none => rfl
  | some entry =>
    simp only [Option.map_some, ClassEntry.properties_undocumented, List.filterMap_map]
    rfl

theorem writableIndices_undocumented : table.undocumented.writableIndices =
    table.writableIndices := by
  simp only [writableIndices, size_undocumented, at?_undocumented, Option.any_map]
  rfl

theorem undocumented_makeWritable (table : ClassTable ClassId) (index : ClassId) :
    (table.makeWritable index).undocumented = table.undocumented.makeWritable index := by
  rw [makeWritable, makeWritable, undocumented_unlock, objectEdges_undocumented,
    writableIndices_undocumented, size_undocumented]

end ClassTable

end ClientGen

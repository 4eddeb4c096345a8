import ClientGen.Proofs.Discovery.Writable
import ClientGen.Proofs.Model.References

/-!
# Payloads of requests

What is sent in the body of a request is unlocked down to the objects that the sent ones hold, and
what is unlocked is held by something that is sent. Alternatives of a property are passed over: what
a client finds there it does not send.
-/

namespace ClientGen

open Relation (ReflTransGen)

namespace ClassTable

variable {table : ClassTable ClassId} {holder held start place : ClassId}

/-- Whether a property of one class has values of which objects of another one are part: the values
themselves, or what one of their type arguments stands for. -/
def Carries (table : ClassTable ClassId) (holder held : ClassId) : Prop :=
  ∃ entry, table.at? holder = some entry ∧ ∃ property ∈ entry.properties, property.shape.Sends held

theorem HoldsObject.carries (holds : table.HoldsObject holder held) :
    table.Carries holder held := by
  rcases holds with ⟨entry, found, property, among, isObject, refers⟩
  exact ⟨entry, found, property, among, .own isObject refers⟩

def referenceEdges (table : ClassTable ClassId) (index : ClassId) : List ClassId :=
  match table.at? index with
  | none => []
  | some entry => entry.properties.flatMap fun property => property.shape.references

theorem mem_referenceEdges_iff :
    held ∈ table.referenceEdges holder ↔ table.RefersTo holder held := by
  unfold referenceEdges RefersTo
  cases found : table.at? holder with
  | none => simp
  | some entry => simp [List.mem_flatMap]

end ClassTable

namespace Survey

/-- A class of which objects are part of what is sent in the body of some request is unlocked, if
only properties with objects as their values lead to it. A class is not unlocked for being an
alternative: to each one that is, objects and type arguments lead from the body of some request. -/
theorem payloads_writable (server : Server) (declarations : List Declaration) :
    let model := (ofControllers server declarations).model
    (∀ controller ∈ model.controllers, ∀ action ∈ controller.actions,
      ∀ parameter ∈ action.parameters, parameter.position = .body →
        ∀ start place, parameter.shape.Sends start →
          ReflTransGen model.types.HoldsObject start place → model.types.IsWritable place) ∧
      ∀ place, model.types.IsWritable place →
        ∃ controller ∈ model.controllers, ∃ action ∈ controller.actions,
          ∃ parameter ∈ action.parameters, parameter.position = .body ∧
            ∃ start, parameter.shape.Sends start ∧
              ReflTransGen model.types.Carries start place := by
  intro model
  constructor
  · intro controller isRead action isAction parameter isParameter inBody start place sends path
    have isSent := mem_bodyShapes_iff.mpr
      ⟨controller, isRead, action, isAction, parameter, isParameter, inBody, rfl⟩
    exact (isWritable_iff_path server declarations place).mpr
      ⟨parameter.shape, isSent, start, sends, path⟩
  · intro place writable
    rcases (isWritable_iff_path server declarations place).mp writable with
      ⟨shape, isSent, start, sends, path⟩
    rcases mem_bodyShapes_iff.mp isSent with
      ⟨controller, isRead, action, isAction, parameter, isParameter, inBody, rfl⟩
    have carries : ReflTransGen model.types.Carries start place :=
      ReflTransGen.mono (fun _ _ => ClassTable.HoldsObject.carries) _ _ path
    exact ⟨controller, isRead, action, isAction, parameter, isParameter, inBody, start, sends,
      carries⟩

/-- A server with a form that holds a page of lines, and a note for want of anything better. -/
def formServer : Server where
  catalog := Catalog.empty
    |>.insert
      { name := "Form"
        properties := [{ name := "Lines", type := .named "Page\x601" [.named "Line" []] },
          { name := "Content", type := .named "System.Object" []
            attributes := [.unionType [.named "Note" []]] }] }
    |>.insert
      { name := "Page\x601", genericParameters := ["T"]
        properties := [{ name := "Items", type := .array (.parameter "T") }] }
    |>.insert { name := "Line" }
    |>.insert { name := "Note" }
  convention := .webApi

/-- A controller that is sent a form. -/
def formController : Declaration where
  name := "FormController"
  methods := [{ name := "Post", attributes := [.httpPost none]
                parameters := [{ name := "form", type := .named "Form" [] }] }]

/-- One evaluation of the survey tells what becomes of the form. -/
theorem form_sent :
    let model := (ofControllers formServer [formController]).model
    (∃ controller ∈ model.controllers, ∃ action ∈ controller.actions,
      ∃ parameter ∈ action.parameters, parameter.position = .body ∧
        parameter.shape.kind = .object ∧ parameter.shape.reference = some 0) ∧
      model.types.referenceEdges 0 = [2, 1, 3] ∧ model.types.objectEdges 0 = [2] ∧
      model.types.writableIndices = [0, 2] ∧
      ∀ place ∈ [1, 3], (model.types.at? place).map (·.isEnum) = some false := by
  decide +kernel

theorem page_unlocked_in_form :
    let model := (ofControllers formServer [formController]).model
    ∃ controller ∈ model.controllers, ∃ action ∈ controller.actions,
      ∃ parameter ∈ action.parameters, parameter.position = .body ∧
        parameter.shape.Sends 0 ∧ model.types.HoldsObject 0 2 ∧ model.types.IsWritable 2 := by
  intro model
  rcases form_sent with
    ⟨⟨controller, isRead, action, isAction, parameter, isParameter, inBody, isObject, refers⟩, -,
      held, -, -⟩
  have sends : parameter.shape.Sends 0 := .own isObject refers
  have holds : model.types.HoldsObject 0 2 := by
    rw [← ClassTable.mem_objectEdges_iff, held]
    exact List.mem_singleton_self 2
  exact ⟨controller, isRead, action, isAction, parameter, isParameter, inBody, sends, holds,
    (payloads_writable formServer [formController]).1 controller isRead action isAction parameter
      isParameter inBody 0 2 sends (.single holds)⟩

/-- The lines and the note are part of what is sent, and stay locked. -/
theorem locked_inside_form :
    let model := (ofControllers formServer [formController]).model
    ∃ controller ∈ model.controllers, ∃ action ∈ controller.actions,
      ∃ parameter ∈ action.parameters, parameter.position = .body ∧
        ∀ place ∈ [1, 3], model.types.LeadsTo parameter.shape place ∧
          (∃ entry, model.types.at? place = some entry ∧ entry.isEnum = false) ∧
          ¬model.types.IsWritable place := by
  intro model
  rcases form_sent with
    ⟨⟨controller, isRead, action, isAction, parameter, isParameter, inBody, -, refers⟩, referred,
      -, unlocked, objects⟩
  refine ⟨controller, isRead, action, isAction, parameter, isParameter, inBody, ?_⟩
  intro place among
  refine ⟨⟨0, ?_, .single ?_⟩, Option.map_eq_some_iff.mp (objects place among), ?_⟩
  · rw [Shape.references_eq, refers]
    exact List.mem_cons_self
  · rw [← ClassTable.mem_referenceEdges_iff, referred]
    exact List.mem_cons_of_mem 2 among
  · rw [← ClassTable.mem_writableIndices_iff, unlocked]
    rcases List.mem_pair.mp among with rfl | rfl <;> decide

end Survey

end ClientGen

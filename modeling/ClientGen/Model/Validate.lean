import ClientGen.Failure
import ClientGen.Model.Service

/-!
# Validity of service models

A model is valid when every object and every enumeration in it names a class, and every class that
is named is in the table. The shapes of parameters and payloads are looked at first, in the order of
the actions, and the properties of the classes after them; in each shape the outer comes before the
inner. So it is settled which of several failures is reported.
-/

namespace ClientGen

variable {ρ : Type}

/-- The class that a shape refers to; an object or an enumeration has to refer to one. -/
def Shape.checkedReference (shape : Shape ρ) : Except Failure (Option ρ) :=
  match shape.reference with
  | none => if shape.needsClass then .error (.missingClass shape.kind.name) else .ok none
  | some reference => .ok (some reference)

/-- The failure of a reference that is not in the table. -/
def Failure.unregistered (id : ClassId) : Failure :=
  .missingClass ("#" ++ toString id)

/-- Checks that the class that a shape refers to is in the table. -/
def Shape.checkReference (table : ClassTable ClassId) (shape : Shape ClassId) :
    Except Failure Unit :=
  match shape.checkedReference with
  | .error failure => .error failure
  | .ok none => .ok ()
  | .ok (some id) => if (table.at? id).isSome then .ok () else .error (.unregistered id)

mutual

/-- Checks a shape and those inside it. -/
def Shape.validate (table : ClassTable ClassId) : Shape ClassId → Except Failure Unit
  | ⟨kind, reference, _, _, _, arguments, _, alternatives⟩ => do
    Shape.checkReference table { kind, reference }
    validateOption table arguments
    validateOption table alternatives

/-- Checks the shapes of a list that may be missing. -/
def validateOption (table : ClassTable ClassId) :
    Option (List (Shape ClassId)) → Except Failure Unit
  | none => .ok ()
  | some shapes => validateList table shapes

/-- Checks the shapes of a list. -/
def validateList (table : ClassTable ClassId) : List (Shape ClassId) → Except Failure Unit
  | [] => .ok ()
  | shape :: shapes => do
    shape.validate table
    validateList table shapes

end

/-- The shapes of the parameters and the payload of an action. -/
def Action.shapes (action : Action ρ) : List (Shape ρ) :=
  action.parameters.map (·.shape) ++ action.payload.toList.map (·.shape)

/-- The shapes in a model, those of actions before those of properties. -/
def ServiceModel.shapes (model : ServiceModel ρ) : List (Shape ρ) :=
  model.controllers.flatMap (fun controller => controller.actions.flatMap Action.shapes) ++
    model.types.classes.flatMap fun entry => entry.properties.map (·.shape)

/-- Checks every shape in a model. -/
def ServiceModel.validate (model : ServiceModel ClassId) : Except Failure Unit :=
  validateList model.types model.shapes

end ClientGen

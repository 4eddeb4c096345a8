import ClientGen.Declaration.Attribute
import ClientGen.QualifiedName

/-!
# Constraints

What the attributes of a parameter or a property demand of its values. Each attribute sets its own
part, so of two attributes for one part the later one counts.
-/

namespace ClientGen

/-- The format that a text has to have. -/
inductive ValueFormat where
  | none
  | email
  deriving DecidableEq, Repr

/-- The demands on a value. -/
structure Constraints where
  minLength : Option Nat := none
  maxLength : Option Nat := none
  minimum : Option Float := none
  maximum : Option Float := none
  /-- The client's name of a property that has to have the same value. -/
  compare : Option String := none
  format : ValueFormat := .none
  required : Bool := false

namespace Constraints

/-- Adds the demand of an attribute. -/
def add (constraints : Constraints) : Attribute → Constraints
  | .required => { constraints with required := true }
  | .stringLength maximum minimum =>
    { constraints with maxLength := some maximum, minLength := minimum.or constraints.minLength }
  | .minLength length => { constraints with minLength := some length }
  | .maxLength length => { constraints with maxLength := some length }
  | .range minimum maximum => { constraints with minimum := some minimum, maximum := some maximum }
  | .compare otherProperty =>
    { constraints with compare := some (QualifiedName.camelCase otherProperty) }
  | .emailAddress => { constraints with format := .email }
  | _ => constraints

/-- The demands of a list of attributes. -/
def ofAttributes (attributes : List Attribute) : Constraints :=
  attributes.foldl add {}

/-- Whether nothing is demanded. -/
def isEmpty (constraints : Constraints) : Bool :=
  constraints.minLength.isNone && constraints.maxLength.isNone && constraints.minimum.isNone &&
    constraints.maximum.isNone && constraints.compare.isNone && constraints.format == .none &&
    !constraints.required

end Constraints

end ClientGen

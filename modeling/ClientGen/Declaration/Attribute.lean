import ClientGen.TypeExpr.Basic

/-!
# Attributes

The closed set of attributes that a declaration, its members and their parameters may carry and
that mean something to the generator.
-/

namespace ClientGen

/-- An attribute with its arguments. -/
inductive Attribute where
  | route (template : Option String)
  | routePrefix (name : String)
  | httpGet (template : Option String)
  | httpPost (template : Option String)
  | httpPut (template : Option String)
  | httpDelete (template : Option String)
  | httpPatch (template : Option String)
  | nonAction
  | apiExplorerSettings (ignoreApi : Bool)
  | fromQuery
  | fromUri
  | fromBody
  | fromRoute
  | authorize (policy roles : Option String)
  | allowAnonymous
  | jsonIgnore
  | readOnly (value : Bool)
  | editable (allowEdit : Bool)
  | required
  | stringLength (maximum : Nat) (minimum : Option Nat)
  | minLength (length : Nat)
  | maxLength (length : Nat)
  | range (minimum maximum : Float)
  | compare (otherProperty : String)
  | emailAddress
  | unionType (types : List TypeExpr)
  | returnType (type : TypeExpr)
  | json (observable : Bool)

end ClientGen

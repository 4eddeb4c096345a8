import ClientGen.TypeScript.Client
import Mathlib.Data.String.Basic

/-!
# What is sent in bodies

The type of a parameter has layers around a class. Where the class has a wrapper, callers give
wrappers inside the layers, and the server wants plain data inside the same ones. What the code of a
body does to a value is a `Conversion`: it unwraps the value, or converts the items of a list, or
leaves everything as it is. The code looks at the outermost layer only, so it converts too little as
soon as there is a layer inside of it.
-/

namespace ClientGen.TypeScript

/-! ### Values -/

/-- A value of a running client. The data of an object is all that is known of it. -/
inductive Value where
  /-- Null or undefined. -/
  | missing
  | wrapper (data : String)
  | object (data : String)
  | list (items : List Value)
  | dictionary (entries : List (String × Value))

namespace Value

mutual

/-- The value with plain objects in place of all wrappers. -/
def plain : Value → Value
  | .missing => .missing
  | .wrapper data => .object data
  | .object data => .object data
  | .list items => .list (plainItems items)
  | .dictionary entries => .dictionary (plainEntries entries)

/-- The items of a list with plain objects in them. -/
def plainItems : List Value → List Value
  | [] => []
  | item :: items => item.plain :: plainItems items

/-- The entries of a dictionary with plain objects in them. -/
def plainEntries : List (String × Value) → List (String × Value)
  | [] => []
  | (key, value) :: entries => (key, value.plain) :: plainEntries entries

end

/-- Whether a value has some layers, with values of a kind inside them. -/
def Fits (innermost : Value → Prop) : List Layer → Value → Prop
  | [], value => innermost value
  | .array :: layers, value =>
    ∃ items, value = .list items ∧ ∀ item ∈ items, Fits innermost layers item
  | .dictionary :: layers, value =>
    ∃ entries, value = .dictionary entries ∧ ∀ entry ∈ entries, Fits innermost layers entry.2

def IsWrapper (value : Value) : Prop :=
  ∃ data, value = .wrapper data

def IsObject (value : Value) : Prop :=
  ∃ data, value = .object data

/-- A value with some layers around a single wrapper. -/
def sample : List Layer → Value
  | [] => .wrapper ""
  | .array :: layers => .list [sample layers]
  | .dictionary :: layers => .dictionary [("", sample layers)]

variable {value : Value} {layers : List Layer}

theorem plainItems_eq_map (items : List Value) : plainItems items = items.map plain := by
  induction items with
  | nil => rfl
  | cons item items ih => rw [plainItems, ih, List.map_cons]

theorem plainEntries_eq_map (entries : List (String × Value)) :
    plainEntries entries = entries.map fun entry => (entry.1, entry.2.plain) := by
  induction entries with
  | nil => rfl
  | cons entry entries ih =>
    rcases entry with ⟨key, value⟩
    rw [plainEntries, ih, List.map_cons]

/-- The plain value has the same layers. -/
theorem Fits.plain (fits : value.Fits IsWrapper layers) : value.plain.Fits IsObject layers := by
  induction layers generalizing value with
  | nil =>
    rcases fits with ⟨data, rfl⟩
    exact ⟨data, rfl⟩
  | cons layer layers ih =>
    cases layer with
    | array =>
      rcases fits with ⟨items, rfl, inside⟩
      refine ⟨items.map Value.plain, ?_, ?_⟩
      · rw [Value.plain, plainItems_eq_map]
      · rw [List.forall_mem_map]
        intro item among
        exact ih (inside item among)
    | dictionary =>
      rcases fits with ⟨entries, rfl, inside⟩
      refine ⟨entries.map fun entry => (entry.1, entry.2.plain), ?_, ?_⟩
      · rw [Value.plain, plainEntries_eq_map]
      · rw [List.forall_mem_map]
        intro entry among
        exact ih (inside entry among)

theorem fits_sample (layers : List Layer) : (sample layers).Fits IsWrapper layers := by
  induction layers with
  | nil => exact ⟨"", rfl⟩
  | cons layer layers ih =>
    cases layer with
    | array =>
      refine ⟨[sample layers], rfl, ?_⟩
      simpa using ih
    | dictionary =>
      refine ⟨[("", sample layers)], rfl, ?_⟩
      simpa using ih

theorem plain_sample_ne (layers : List Layer) : (sample layers).plain ≠ sample layers := by
  induction layers with
  | nil => simp [sample, plain]
  | cons layer layers ih =>
    cases layer with
    | array => simpa [sample, plain, plainItems] using ih
    | dictionary => simpa [sample, plain, plainEntries] using ih

end Value

/-! ### Conversions -/

/-- What the code of a body does to a value before it is written as text. -/
inductive Conversion where
  | keep
  | unwrap
  /-- Converts each item of a list. -/
  | each (inner : Conversion)

namespace Conversion

/-- The calls behind the value that is converted. -/
def calls : Conversion → String
  | .keep => ""
  | .unwrap => ".toJs()"
  | .each inner => ".map(x => x" ++ inner.calls ++ ")"

/-- The code that converts a value and writes it as text. -/
def code (conversion : Conversion) (value : Fragment) : Code :=
  ["JSON.stringify(", value, conversion.calls ++ ")"]

/-- What becomes of a value. Only wrappers can be unwrapped, and only lists have items; any other
call fails. -/
def run : Conversion → Value → Option Value
  | .keep, value => some value
  | .unwrap, .wrapper data => some (.object data)
  | .each inner, .list items => (items.mapM (run inner)).map .list
  | _, _ => none

/-- Different conversions have different calls. -/
theorem calls_injective : Function.Injective calls := by
  have apart (inner : Conversion) :
      "" ≠ (Conversion.each inner).calls ∧ ".toJs()" ≠ (Conversion.each inner).calls := by
    simp [calls, String.ext_iff]
  intro conversion
  induction conversion with
  | keep =>
    intro other same
    cases other with
    | keep => rfl
    | unwrap => exact absurd same (by decide)
    | each inner => exact absurd same (apart inner).1
  | unwrap =>
    intro other same
    cases other with
    | keep => exact absurd same (by decide)
    | unwrap => rfl
    | each inner => exact absurd same (apart inner).2
  | each inner ih =>
    intro other same
    cases other with
    | keep => exact absurd same.symm (apart inner).1
    | unwrap => exact absurd same.symm (apart inner).2
    | each otherInner =>
      simp only [calls, String.append_left_inj, String.append_right_inj] at same
      rw [ih same]

theorem code_eq_iff {conversion other : Conversion} {value : Fragment} :
    conversion.code value = other.code value ↔ conversion = other := by
  simp [code, String.append_left_inj, calls_injective.eq_iff]

/-- The conversion for a value with some layers, as far as the outermost one tells. -/
def outermost : List Layer → Conversion
  | [] => .unwrap
  | .array :: _ => .each .unwrap
  | .dictionary :: _ => .keep

theorem run_each_unwrap {items : List Value} (wrapped : ∀ item ∈ items, item.IsWrapper) :
    (each unwrap).run (.list items) = some (Value.list items).plain := by
  rw [run, Value.plain, Value.plainItems_eq_map]
  induction items with
  | nil => rfl
  | cons item items ih =>
    rw [List.forall_mem_cons] at wrapped
    rcases wrapped.1 with ⟨data, rfl⟩
    rcases Option.map_eq_some_iff.mp (ih wrapped.2) with ⟨results, mapped, same⟩
    cases same
    simp [mapped, run, Value.plain]

/-- Looking at the outermost layer is enough for single values and for lists of them, and for
nothing else. -/
theorem run_outermost_iff (layers : List Layer) :
    (∀ value : Value, value.Fits Value.IsWrapper layers →
        (outermost layers).run value = some value.plain) ↔
      layers = [] ∨ layers = [.array] := by
  constructor
  · intro converts
    have sampleRun := converts (.sample layers) (Value.fits_sample layers)
    cases layers with
    | nil => exact .inl rfl
    | cons layer layers =>
      cases layer with
      | dictionary =>
        have same := Option.some.inj sampleRun
        exact absurd same.symm (Value.plain_sample_ne _)
      | array =>
        cases layers with
        | nil => exact .inr rfl
        | cons inner layers =>
          -- The item is a container, and what is called on it is the call for wrappers.
          cases inner <;> simp [outermost, Value.sample, run] at sampleRun
  · rintro (rfl | rfl) value fits
    · rcases fits with ⟨data, rfl⟩
      rfl
    · rcases fits with ⟨items, rfl, inside⟩
      exact run_each_unwrap inside

end Conversion

/-! ### Types -/

namespace Scope

variable {scope : Scope} {shape : Shape ClassId} {entry : ClassEntry ClassId}

/-- A shape with a type in the place of its class. -/
def around (scope : Scope) (shape : Shape ClassId) (inside : ClientType) : ClientType :=
  let applied :=
    match scope.typesOfOption false shape.arguments with
    | some types => .apply inside types
    | none => inside
  let type := ClientType.inLayers layerType shape.layers applied
  if shape.nullable then .orNull type else type

theorem typeOf_of_object (live : Bool) (isObject : shape.kind = .object) :
    scope.typeOf live shape = scope.around shape (scope.classType live shape) := by
  rcases shape with ⟨kind, reference, layers, nullable, optional, arguments, name, alternatives⟩
  cases isObject
  rw [typeOf_mk]
  rfl

theorem wrapper?_of_hasWrapper (isObject : shape.kind = .object)
    (found : scope.classOf shape = .ok entry) (wrapped : scope.hasWrapper entry = true) :
    scope.wrapper? shape = some (scope.wrapperType entry) := by
  simp [wrapper?_eq, isObject, found, wrapped]

theorem observable_of_hasWrapper (wrapped : scope.hasWrapper entry = true) :
    scope.observable = true := by
  simp only [hasWrapper, Bool.and_eq_true] at wrapped
  exact wrapped.1.1.1

end Scope

/-! ### Results -/

namespace ActionWriter

open Scope

variable {writer : ActionWriter} {action : Action ClassId} {parameter : ActionParameter ClassId}
  {entry : ClassEntry ClassId}

theorem body_of_wrapper {type : ClientType}
    (sent : action.parameters.find? (·.position = .body) = some parameter)
    (wrapped : writer.scope.wrapper? parameter.shape = some type) :
    writer.body action =
      (Conversion.outermost parameter.shape.layers).code (writer.value parameter.name) := by
  rw [body, sent]
  simp only [wrapped]
  cases parameter.shape.layers with
  | nil => rfl
  | cons layer layers => cases layer <;> rfl

/-- The body of an action with a parameter whose class has a wrapper. The type in the signature has
the wrapper where the plain type has the class. What the code does to the value is one conversion.
It gives plain data for every value of the type in the signature exactly if the type is a single
wrapper or a list of wrappers; the plain data would have the same layers in any case. A missing
value can be converted only as a dictionary, with which nothing is done. -/
theorem body_converts_iff (sent : action.parameters.find? (·.position = .body) = some parameter)
    (isObject : parameter.shape.kind = .object)
    (found : writer.scope.classOf parameter.shape = .ok entry)
    (wrapped : writer.scope.hasWrapper entry = true) :
    let shape := parameter.shape
    let around := writer.scope.around shape
    writer.scope.typeOf writer.scope.observable shape = around (writer.scope.wrapperType entry) ∧
      writer.scope.typeOf false shape = around (.named writer.scope.plainHome entry.name) ∧
      ∃ conversion : Conversion,
        (∀ other : Conversion, writer.body action = other.code (writer.value parameter.name) ↔
          other = conversion) ∧
        ((∀ value : Value, value.Fits Value.IsWrapper shape.layers →
            conversion.run value = some value.plain) ↔
          shape.layers = [] ∨ shape.layers = [.array]) ∧
        (∀ value : Value, value.Fits Value.IsWrapper shape.layers →
          value.plain.Fits Value.IsObject shape.layers) ∧
        (conversion.run .missing = some .missing ↔ shape.isDictionary = true) := by
  intro shape around
  have live : writer.scope.classType true shape = writer.scope.wrapperType entry := by
    simp [classType_eq, shape, found, wrapped]
  have notLive : writer.scope.classType false shape = .named writer.scope.plainHome entry.name := by
    simp [classType_eq, shape, found]
  refine ⟨?_, ?_, Conversion.outermost shape.layers, ?_, ?_, ?_, ?_⟩
  · rw [observable_of_hasWrapper wrapped, typeOf_of_object true isObject, live]
  · rw [typeOf_of_object false isObject, notLive]
  · intro other
    rw [body_of_wrapper sent (wrapper?_of_hasWrapper isObject found wrapped),
      Conversion.code_eq_iff]
    exact eq_comm
  · exact Conversion.run_outermost_iff shape.layers
  · intro value fits
    exact fits.plain
  · rw [Shape.isDictionary]
    rcases shape.layers with _ | ⟨layer, layers⟩
    · simp [Conversion.outermost, Conversion.run]
    · cases layer <;> simp [Conversion.outermost, Conversion.run]

/-- A parameter that is sent orders, inside some layers. -/
def ordersParameter (layers : List Layer) : ActionParameter ClassId where
  name := "orders"
  shape := { kind := .object, reference := some 0, layers }
  isRequired := true
  position := .body

/-- An action that is sent orders. -/
def putOrders (layers : List Layer) : Action ClassId where
  name := "Put"
  verb := .put
  route := "orders"
  controller := "Orders"
  parameters := [ordersParameter layers]

/-- An order, of which clients may change the amount. -/
def orderEntry : ClassEntry ClassId where
  name := "Order"
  sourceName := "Shop.Order"
  isReadOnly := false
  isObservable := true
  body := .object [{ name := "amount", isReadOnly := false, shape := { kind := .int } }]

/-- A model with an action that is sent orders. -/
def ordersModel (layers : List Layer) : ServiceModel ClassId where
  controllers := [{ name := "Orders", actions := [putOrders layers] }]
  types := ClassTable.register orderEntry {}

/-- What writes the actions of a model with orders. -/
def ordersWriter (layers : List Layer) : ActionWriter :=
  ⟨({ observable := true } : Options).controllerScope (ordersModel layers), .object⟩

theorem body_converts_orders :
    (putOrders [.array]).parameters.find? (·.position = .body) = some (ordersParameter [.array]) ∧
      (ordersParameter [.array]).shape.kind = .object ∧
      (ordersWriter [.array]).scope.classOf (ordersParameter [.array]).shape = .ok orderEntry ∧
      (ordersWriter [.array]).scope.hasWrapper orderEntry = true ∧
      ∃ conversion : Conversion,
        (ordersWriter [.array]).body (putOrders [.array]) =
          conversion.code (.parameter .object "orders") ∧
        ∀ value : Value, value.Fits Value.IsWrapper [.array] →
          conversion.run value = some value.plain := by
  have sent : (putOrders [.array]).parameters.find? (·.position = .body) =
      some (ordersParameter [.array]) := rfl
  have found : (ordersWriter [.array]).scope.classOf (ordersParameter [.array]).shape =
      .ok orderEntry := rfl
  have wrapped : (ordersWriter [.array]).scope.hasWrapper orderEntry = true := rfl
  rcases body_converts_iff sent rfl found wrapped with ⟨-, -, conversion, reads, converts, -⟩
  exact ⟨sent, rfl, found, wrapped, conversion, (reads conversion).mpr rfl,
    converts.mpr (.inr rfl)⟩

/-- What happens to values inside two layers: the call for wrappers fails on the lists in a list,
and the wrappers in a dictionary are sent as they are. -/
theorem orders_not_converted :
    (ordersModel [.array, .array]).validate = .ok () ∧
      (ordersModel [.dictionary]).validate = .ok () ∧
      (∃ (value : Value) (conversion : Conversion),
        value.Fits Value.IsWrapper [.array, .array] ∧
          (ordersWriter [.array, .array]).body (putOrders [.array, .array]) =
            conversion.code (.parameter .object "orders") ∧
          conversion.run value = none) ∧
      ∃ (value : Value) (conversion : Conversion),
        value.Fits Value.IsWrapper [.dictionary] ∧
          (ordersWriter [.dictionary]).body (putOrders [.dictionary]) =
            conversion.code (.parameter .object "orders") ∧
          conversion.run value ≠ some value.plain := by
  refine ⟨rfl, rfl, ?_, ?_⟩
  · exact ⟨.sample [.array, .array], .each .unwrap, Value.fits_sample _, rfl, rfl⟩
  · refine ⟨.sample [.dictionary], .keep, Value.fits_sample _, rfl, ?_⟩
    intro same
    exact Value.plain_sample_ne [.dictionary] (Option.some.inj same).symm

end ActionWriter

end ClientGen.TypeScript

import ClientGen.Data.Source
import ClientGen.Data.Plain

/-!
# Readers

A reader turns a source into a value of some type, or says what keeps it from doing so. Readers go
through their source in the order of the text, so the first problem in the text is the one reported.

Records are read by a `Layout`: the names of the fields with a reader for each. The values found
are kept in nested pairs of options, in the order of the layout, and the reader of the record says
for each field what its absence means. A record may also be given as the list of its fields.

A source can be *settled*: everything that was left open in it is decided and nothing in it is
flawed. That is how a value is kept whose type only shows further on.
-/

namespace ClientGen.Data

/-- How a source is read. -/
structure Scope where
  /-- How many containers may still be entered. -/
  levels : Nat
  /-- Whether the source is settled. -/
  settled : Bool

/-- Reads values of a type. -/
abbrev Reader (α : Type) := Scope → Source → Except ReadError α

/-- The scope inside a container; containers that are nested too deeply are malformed. -/
def Scope.enter (scope : Scope) : Except ReadError Scope :=
  match scope.levels with
  | 0 => .error (.flaw .malformed)
  | levels + 1 => .ok { scope with levels }

/-- The complaint about a structure that does not fit: in a text that is still being taken apart
the text itself is at fault. -/
def Scope.unexpected (scope : Scope) : ReadError :=
  if scope.settled then .misfit .otherKind else .flaw .malformed

/-- The tag of null in all documents. -/
def nullTag : String := "tag:yaml.org,2002:null"

namespace Reader

/-- Applies a function to what was read. -/
def map {α β : Type} (f : α → β) (reader : Reader α) : Reader β :=
  fun scope source => (reader scope source).map f

/-- Applies a function that may refuse what was read. -/
def check {α β : Type} (f : α → Except Misfit β) (reader : Reader α) : Reader β :=
  fun scope source => do
    let value ← reader scope source
    (f value).mapError .misfit

/-- Reads a text. -/
def text : Reader String := fun _ source =>
  match source.untagged with
  | .quoted value => value.text
  | .plain text => .ok text
  | other => .error other.refuse

/-- Reads a truth value. -/
def bool : Reader Bool := fun _ source =>
  match source.untagged with
  | .bool value => .ok value
  | .plain text =>
    match Plain.bool? text with
    | some value => .ok value
    | none => .error (.misfit .otherKind)
  | other => .error other.refuse

/-- Reads an integer between two bounds, inclusively. -/
def int (least greatest : Int) : Reader Int := fun _ source =>
  let bounded := fun value : Int =>
    if least ≤ value && value ≤ greatest then .ok value else .error (.misfit .otherKind)
  let whole := fun
    | Number.int value => bounded value
    | .real _ => .error (.misfit .otherKind)
  match source.untagged with
  | .numeral value =>
    match value.value? with
    | some number => whole number
    | none => .error (.flaw .malformed)
  | .number value => whole value
  | .plain text =>
    match Plain.int? text with
    | some value => bounded value
    | none => .error (.misfit .otherKind)
  | other => .error other.refuse

/-- Reads a natural number below `2 ^ bits`. -/
def word (bits : Nat) : Reader Nat :=
  map Int.toNat (int 0 (Nat.pow 2 bits - 1))

/-- Reads an integer of 64 bits with a sign. -/
def int64 : Reader Int :=
  int (-Nat.pow 2 63) (Nat.pow 2 63 - 1)

/-- Reads a float; whole numbers are floats too. -/
def float : Reader Float := fun _ source =>
  let real := fun
    | Number.int value => Decimal.nearest (value < 0) value.natAbs 1
    | .real value => value
  match source.untagged with
  | .numeral value =>
    match value.value? with
    | some number => .ok (real number)
    | none => .error (.flaw .malformed)
  | .number value => .ok (real value)
  | .plain text =>
    match Plain.float? text with
    | some value => .ok value
    | none => .error (.misfit .otherKind)
  | other => .error other.refuse

/-- Reads a value that may be null. -/
def orNull {α : Type} (reader : Reader α) : Reader (Option α) := fun scope source =>
  match source with
  | .null => .ok none
  | .plain text =>
    if text.isEmpty || Plain.isNull text then .ok none else (reader scope source).map some
  | .tagged tag (.plain text) =>
    if tag != nullTag then (reader scope source).map some
    else if Plain.isNull text then .ok none
    else .error (.misfit .otherKind)
  | other => (reader scope other).map some

/-- Reads the items of a list. -/
def items {α : Type} (reader : Reader α) (scope : Scope) : List Source → Except ReadError (List α)
  | [] => .ok []
  | item :: others => do
    let value ← reader scope item
    let values ← items reader scope others
    .ok (value :: values)

/-- Reads a list. -/
def list {α : Type} (reader : Reader α) : Reader (List α) := fun scope source =>
  match source.untagged with
  | .list sources flaw => do
    let scope ← scope.enter
    let values ← items reader scope sources
    checkFlaw flaw
    .ok values
  | .plain "" => .ok []
  | other => .error other.refuse

/-- Reads a type expression from its text. -/
def typeExpr : Reader TypeExpr :=
  check (fun text => (TypeExpr.parse text).mapError .typeExpression) text

end Reader

/-! ## Records -/

/-- A field of a record. -/
structure Field (α : Type) where
  name : String
  reader : Reader α

/-- The fields of a record, whose values are collected in `σ`. -/
structure Layout (σ : Type) where
  /-- Nothing found yet. -/
  empty : σ
  /-- Stores the value of the named field, which may be no field of the record or be there
  already. -/
  put : String → Scope → σ → Option (Except ReadError (Source → Except ReadError σ))
  /-- Reads the fields from the items of a list, and gives the items that are left. -/
  fill : Scope → List Source → Except ReadError (σ × List Source)

namespace Layout

/-- A record without fields. -/
def nil : Layout Unit where
  empty := ()
  put _ _ _ := none
  fill _ items := .ok ((), items)

/-- A record with one more field in front. -/
def cons {α σ : Type} (field : Field α) (others : Layout σ) : Layout (Option α × σ) where
  empty := (none, others.empty)
  put name scope found :=
    if name == field.name then
      match found.1 with
      | some _ => some (.error (.misfit (.duplicateField name)))
      | none => some (.ok fun source =>
          (field.reader scope source).map fun value => (some value, found.2))
    else
      (others.put name scope found.2).map fun outcome =>
        outcome.map fun store => fun source => (store source).map (found.1, ·)
  fill scope
    | [] => .ok ((none, others.empty), [])
    | item :: items => do
      let value ← field.reader scope item
      let (values, left) ← others.fill scope items
      .ok ((some value, values), left)

/-- How the fields were given. -/
inductive Form where
  | named
  | positional

/-- Collects the members of a record; members that are no fields are passed over. -/
def collect {σ : Type} (layout : Layout σ) (scope : Scope) :
    σ → List (Quoted × Source) → Except ReadError σ
  | found, [] => .ok found
  | found, (key, value) :: members => do
    let name ← key.text
    match layout.put name scope found with
    | none =>
      value.skip
      collect layout scope found members
    | some (.error error) => .error error
    | some (.ok store) =>
      let found ← store value
      collect layout scope found members

/-- Reads the fields of a record. -/
def reader {σ : Type} (layout : Layout σ) : Reader (σ × Form) := fun scope source =>
  match source.untagged with
  | .record members flaw => do
    let scope ← scope.enter
    let found ← layout.collect scope layout.empty members
    checkFlaw flaw
    .ok (found, .named)
  | .list items flaw => do
    let scope ← scope.enter
    let (found, left) ← layout.fill scope items
    if left.isEmpty then
      checkFlaw flaw
      .ok (found, .positional)
    else .error scope.unexpected
  | .plain "" => .ok (layout.empty, .named)
  | other => .error other.refuse

/-- The value of a field that has to be there. -/
def required {α : Type} (form : Form) (name : String) : Option α → Except ReadError α
  | some value => .ok value
  | none =>
    match form with
    | .named => .error (.misfit (.missingField name))
    | .positional => .error (.misfit .otherKind)

/-- The value of a field that may only be left out of a record with names. -/
def orAbsent {α : Type} (form : Form) : Option (Option α) → Except ReadError (Option α)
  | some value => .ok value
  | none =>
    match form with
    | .named => .ok none
    | .positional => .error (.misfit .otherKind)

end Layout

/-- Reads a record: its fields, and then the value that they make up. -/
def Reader.record {σ α : Type} (layout : Layout σ)
    (assemble : Layout.Form → σ → Except ReadError α) : Reader α := fun scope source => do
  let (found, form) ← layout.reader scope source
  assemble form found

end ClientGen.Data

import ClientGen.Proofs.TypeScript.Classes
import ClientGen.Proofs.TypeScript.Live
import ClientGen.TypeScript.Client

/-!
# What observables hold

The field of a property says of which type the content of its observable is. The functions of the
wrapper put the content there and take it out again: they turn plain data into dates and wrappers
and back, or copy it. Type and functions should agree about that.

They do for everything but unions. The type of a union goes into its alternatives, so it tells of
dates and wrappers there, but the functions look no further than the kind of the whole value, and
copy it.
-/

namespace ClientGen.TypeScript

/-! ### Content -/

/-- What an observable may hold. Nothing but the data it stands for is known of a date or a
wrapper, and texts for the same date are the same data. -/
inductive Content where
  /-- Null or undefined. -/
  | missing
  | plain (data : String)
  | date (data : String)
  | wrapper (type : ClientType) (data : String)
  | list (items : List Content)
  | dictionary (entries : List (String × Content))

namespace Content

def IsPlain (content : Content) : Prop :=
  ∃ data, content = .plain data

/-- Whether this is a date or a wrapper, and the type says so. -/
def IsOf (type : ClientType) : Content → Prop
  | .date _ => type = .word "Date"
  | .wrapper held _ => type = held
  | _ => False

/-- Whether content has some layers, with content of a kind inside them. -/
def Fits (innermost : Content → Prop) : List Layer → Content → Prop
  | [], content => innermost content
  | .array :: layers, content =>
    ∃ items, content = .list items ∧ ∀ item ∈ items, Fits innermost layers item
  | .dictionary :: layers, content =>
    ∃ entries, content = .dictionary entries ∧ ∀ entry ∈ entries, Fits innermost layers entry.2

/-- A date from its text. -/
def toDate : Content → Option Content
  | .plain data => some (.date data)
  | _ => none

/-- The text of a date. Nothing else has one. -/
def ofDate : Content → Option Content
  | .date data => some (.plain data)
  | _ => none

/-- An object in a wrapper. -/
def wrap (type : ClientType) : Content → Option Content
  | .plain data => some (.wrapper type data)
  | _ => none

/-- The object in a wrapper. Only wrappers can be unwrapped. -/
def unwrap : Content → Option Content
  | .wrapper _ data => some (.plain data)
  | _ => none

/-- Converts each item of a list. Nothing else has items. -/
def each (convert : Content → Option Content) : Content → Option Content
  | .list items => (items.mapM convert).map .list
  | _ => none

end Content

namespace Holding

/-- What is held after plain data was loaded, if the statement for that does not fail. -/
def loaded : Holding → Content → Option Content
  | .values, .missing | .dates, .missing | .wrappers _, .missing => some (.list [])
  | .date, .missing | .wrapper _, .missing => some .missing
  | .fixed, data | .value, data | .values, data => some data
  | .date, data => data.toDate
  | .wrapper type, data => data.wrap type
  | .dates, data => data.each Content.toDate
  | .wrappers type, data => data.each (Content.wrap type)

/-- The plain data that is given for what is held, if the expression for that does not fail. -/
def given : Holding → Content → Option Content
  | .fixed, held | .value, held | .values, held => some held
  | _, .missing => some .missing
  | .date, held => held.ofDate
  | .wrapper _, held => held.unwrap
  | .dates, held => held.each Content.ofDate
  | .wrappers _, held => held.each Content.unwrap

/-- Whether plain data in some layers is turned into content of a type, inside the same layers, and
back. -/
def Converts (holding : Holding) (type : ClientType) (layers : List Layer) : Prop :=
  ∀ data : Content, data.Fits Content.IsPlain layers →
    ∃ held, holding.loaded data = some held ∧ held.Fits (Content.IsOf type) layers ∧
      holding.given held = some data

/-- Whether data that is not missing is held as it is, and given as it is held. -/
def Copies (holding : Holding) : Prop :=
  ∀ data ≠ Content.missing, holding.loaded data = some data ∧ holding.given data = some data

variable {holding other : Holding} {name : String} {type : ClientType}

/-- The statement that loads a property tells how the property is held. -/
theorem load_eq_iff : other.load name = holding.load name ↔ other = holding := by
  constructor
  · intro same
    cases holding <;> cases other <;> simp_all [load_eq]
  · intro same
    rw [same]

/-- The expression for plain data tells what is given. -/
theorem given_of_plainData (same : other.plainData name = holding.plainData name) :
    other.given = holding.given := by
  cases holding <;> cases other <;> simp [plainData_eq] at same
  all_goals
    funext held
    cases held <;> rfl

theorem copies_value : Holding.value.Copies := by
  intro data _
  exact ⟨rfl, rfl⟩

theorem copies_values : Holding.values.Copies := by
  intro data present
  cases data with
  | missing => exact absurd rfl present
  | _ => exact ⟨rfl, rfl⟩

theorem converts_date : Holding.date.Converts (.word "Date") [] := by
  rintro _ ⟨data, rfl⟩
  exact ⟨.date data, rfl, rfl, rfl⟩

theorem converts_wrapper : (Holding.wrapper type).Converts type [] := by
  rintro _ ⟨data, rfl⟩
  exact ⟨.wrapper type data, rfl, rfl, rfl⟩

/-- Lists are converted if their items are. -/
theorem exists_mapM (turn turnBack : Content → Option Content) (good : Content → Prop)
    (turns : ∀ data, ∃ held, turn (.plain data) = some held ∧ good held ∧
      turnBack held = some (.plain data))
    {items : List Content} (plain : ∀ item ∈ items, item.IsPlain) :
    ∃ held, items.mapM turn = some held ∧ (∀ item ∈ held, good item) ∧
      held.mapM turnBack = some items := by
  induction items with
  | nil => exact ⟨[], by simp⟩
  | cons item items ih =>
    rw [List.forall_mem_cons] at plain
    rcases plain.1 with ⟨data, rfl⟩
    rcases turns data with ⟨first, turned, isGood, turnedBack⟩
    rcases ih plain.2 with ⟨others, othersTurned, allGood, othersBack⟩
    refine ⟨first :: others, ?_, ?_, ?_⟩
    · simp [turned, othersTurned]
    · simpa using ⟨isGood, allGood⟩
    · simp [turnedBack, othersBack]

theorem converts_dates : Holding.dates.Converts (.word "Date") [.array] := by
  rintro _ ⟨items, rfl, plain⟩
  rcases exists_mapM Content.toDate Content.ofDate (Content.IsOf (.word "Date"))
    (fun data => ⟨.date data, rfl, rfl, rfl⟩) plain with ⟨held, turned, dates, turnedBack⟩
  refine ⟨.list held, ?_, ⟨held, rfl, dates⟩, ?_⟩
  · simp [loaded, Content.each, turned]
  · simp [given, Content.each, turnedBack]

theorem converts_wrappers : (Holding.wrappers type).Converts type [.array] := by
  rintro _ ⟨items, rfl, plain⟩
  rcases exists_mapM (Content.wrap type) Content.unwrap (Content.IsOf type)
    (fun data => ⟨.wrapper type data, rfl, rfl, rfl⟩) plain with ⟨held, turned, wrapped, turnedBack⟩
  refine ⟨.list held, ?_, ⟨held, rfl, wrapped⟩, ?_⟩
  · simp [loaded, Content.each, turned]
  · simp [given, Content.each, turnedBack]

/-- What is copied is not turned into dates or wrappers. -/
theorem not_converts_of_copies {layers : List Layer} (copies : holding.Copies)
    (shallow : layers = [] ∨ layers = [.array]) : ¬ holding.Converts type layers := by
  intro converts
  rcases shallow with rfl | rfl
  · rcases converts (.plain "") ⟨"", rfl⟩ with ⟨held, loaded, isOf, -⟩
    rw [(copies _ (by simp)).1] at loaded
    cases loaded
    exact isOf
  · rcases converts (.list [.plain ""]) ⟨_, rfl, by simp [Content.Fits, Content.IsPlain]⟩ with
      ⟨held, loaded, isOf, -⟩
    rw [(copies _ (by simp)).1] at loaded
    cases loaded
    rcases isOf with ⟨items, same, isOf⟩
    cases same
    exact isOf _ List.mem_cons_self

end Holding

/-! ### Fields -/

/-- The types that are mentioned in some code. -/
def Code.types (code : Code) : List ClientType :=
  code.filterMap fun
    | .type type => some type
    | _ => none

/-- The shape of the content of the observable of a property, or of the items where the content is
a list. -/
def contentShape (property : ClassProperty ClassId) : Shape ClassId :=
  if property.shape.layers = [.array] then { property.shape with layers := [], nullable := false }
  else property.shape

theorem kind_contentShape (property : ClassProperty ClassId) :
    (contentShape property).kind = property.shape.kind := by
  unfold contentShape
  split <;> rfl

theorem alternatives_contentShape (property : ClassProperty ClassId) :
    (contentShape property).alternatives = property.shape.alternatives := by
  unfold contentShape
  split <;> rfl

theorem layers_contentShape_eq_nil_iff (property : ClassProperty ClassId) :
    (contentShape property).layers = [] ↔
      property.shape.layers = [] ∨ property.shape.layers = [.array] := by
  unfold contentShape
  split
  · next isList => simp [isList]
  · next notList => simp [notList]

theorem Code.types_row (parts : List Code) :
    (Code.row parts).types = parts.flatMap Code.types := by
  unfold Code.row Code.types
  exact List.filterMap_flatten

theorem types_rangeValidator (constraints : Constraints) :
    ∀ validator ∈ rangeValidator constraints, validator.types = [] := by
  unfold rangeValidator
  split <;> simp [Code.types]

theorem types_validators (constraints : Constraints) :
    ∀ validator ∈ validators constraints, validator.types = [] := by
  have range := types_rangeValidator constraints
  intro validator among
  simp only [validators, Code.stack, Code.given, List.flatten_cons, List.flatten_nil,
    List.mem_append, List.mem_map] at among
  rcases among with among | ⟨other, -, rfl⟩ | ⟨length, -, rfl⟩ | ⟨length, -, rfl⟩ | among |
    among | among
  · split at among
    · rw [List.mem_singleton.mp among]
      rfl
    · cases among
  · rfl
  · rfl
  · rfl
  · split at among
    · rw [List.mem_singleton.mp among]
      rfl
    · cases among
  · exact range validator among
  · cases among

namespace Scope

variable {scope : Scope} {property : ClassProperty ClassId}

/-- The type that the field of a property declares. -/
def declaredType (scope : Scope) (property : ClassProperty ClassId) : ClientType :=
  scope.typeOf (contentShape property).layers.isEmpty (contentShape property)

/-- The type in the interface of the class for what the field of a property is about. -/
def plainType (scope : Scope) (property : ClassProperty ClassId) : ClientType :=
  scope.typeOf false (contentShape property)

/-- The interface has the plain type, or lists of it. -/
theorem typeOf_eq_plainType :
    scope.typeOf false property.shape =
      if property.shape.layers = [.array] then
        if property.shape.nullable then .orNull (.array (scope.plainType property))
        else .array (scope.plainType property)
      else scope.plainType property := by
  unfold plainType contentShape
  rcases property with ⟨name, ⟨kind, reference, layers, nullable, optional, arguments, parameter,
    alternatives⟩, documentation, isReadOnly, constraints⟩
  by_cases isList : layers = [.array]
  · subst isList
    simp only [if_true]
    rw [typeOf_mk, typeOf_mk]
    rfl
  · simp [isList]

theorem types_field (writable : property.isReadOnly = false) :
    (scope.field property).types = [scope.declaredType property] := by
  have validated : Code.types ((validators property.constraints).flatMap fun validator =>
      Code.row [[".addValidator("], validator, [")"]]) = [] := by
    rw [Code.types, List.filterMap_flatMap, List.flatMap_eq_nil_iff]
    intro validator among
    have none := types_validators property.constraints validator among
    rw [Code.types] at none
    simp [Code.row, none]
  by_cases isList : property.shape.layers = [.array]
  · have content : scope.elementType true property.shape = scope.declaredType property := by
      simp [elementType_eq, declaredType, contentShape, isList]
    rw [← content]
    simp [field_eq, writable, isList, Code.types]
  · have content : contentShape property = property.shape := by
      simp [contentShape, isList]
    rw [field_eq, declaredType]
    rw [content]
    simp only [writable, isList, Bool.false_eq_true, if_false]
    split
    · next isValidated =>
      have single : property.shape.layers.isEmpty = true := by
        simp only [TypeScript.isValidated, Bool.and_eq_true] at isValidated
        exact isValidated.1.2
      rw [single]
      rw [Code.types_row, List.flatMap_cons, List.flatMap_cons, validated]
      rfl
    · rfl

/-- Whether the field of a property agrees with what the wrapper does. It declares something live
if and only if that is what plain data is turned into and back; otherwise it declares the plain
type, and data is copied. -/
structure Agrees (scope : Scope) (property : ClassProperty ClassId) : Prop where
  live : scope.HoldsLive (scope.declaredType property) ↔
    ∃ leaf ∈ (scope.declaredType property).outerLeaves, scope.IsLive leaf ∧
      (scope.holding property).Converts leaf property.shape.layers
  plain : ¬ scope.HoldsLive (scope.declaredType property) →
    scope.declaredType property = scope.plainType property ∧ (scope.holding property).Copies

/-- A field agrees if it declares a leaf that plain data is turned into. -/
theorem agrees_of_converts {leaf : ClientType}
    (only : (scope.declaredType property).outerLeaves = [leaf]) (live : scope.IsLive leaf)
    (converts : (scope.holding property).Converts leaf property.shape.layers) :
    scope.Agrees property := by
  have inside : leaf ∈ (scope.declaredType property).outerLeaves := by simp [only]
  constructor
  · constructor
    · intro _
      exact ⟨leaf, inside, live, converts⟩
    · intro _
      exact ⟨leaf, inside, live⟩
  · intro notLive
    exact absurd ⟨leaf, inside, live⟩ notLive

/-- Where nothing live is declared, a field agrees if data is copied. -/
theorem agrees_of_copies (notLive : ¬ scope.HoldsLive (scope.declaredType property))
    (samePlain : scope.declaredType property = scope.plainType property)
    (copies : (scope.holding property).Copies) : scope.Agrees property := by
  constructor
  · constructor
    · intro live
      exact absurd live notLive
    · rintro ⟨leaf, inside, live, -⟩
      exact ⟨leaf, inside, live⟩
  · intro _
    exact ⟨samePlain, copies⟩

theorem declaredType_of_single (single : (contentShape property).layers = []) :
    scope.declaredType property = scope.typeOf true (contentShape property) := by
  simp [declaredType, single]

theorem classType_contentShape {live : Bool} :
    scope.classType live (contentShape property) = scope.classType live property.shape := by
  unfold contentShape
  split <;> rfl

theorem wrapper?_contentShape :
    scope.wrapper? (contentShape property) = scope.wrapper? property.shape := by
  unfold contentShape
  split <;> rfl

/-- How a property is held that clients change. -/
inductive Holds (scope : Scope) (property : ClassProperty ClassId) : Holding → Prop
  | date (single : property.shape.layers = []) (isDate : property.shape.kind = .dateTime) :
    Holds scope property .date
  | dates (isList : property.shape.layers = [.array]) (isDate : property.shape.kind = .dateTime) :
    Holds scope property .dates
  | wrapper {type : ClientType} (single : property.shape.layers = [])
    (wrapped : scope.wrapper? property.shape = some type) : Holds scope property (.wrapper type)
  | wrappers {type : ClientType} (isList : property.shape.layers = [.array])
    (wrapped : scope.wrapper? property.shape = some type) : Holds scope property (.wrappers type)
  | value (single : property.shape.layers = []) (notDate : property.shape.kind ≠ .dateTime)
    (notWrapped : scope.wrapper? property.shape = none) : Holds scope property .value
  | values (isList : property.shape.layers = [.array]) (notDate : property.shape.kind ≠ .dateTime)
    (notWrapped : scope.wrapper? property.shape = none) : Holds scope property .values
  | container (notSingle : property.shape.layers ≠ [])
    (notList : property.shape.layers ≠ [.array]) : Holds scope property .value

theorem holds_holding (writable : property.isReadOnly = false) :
    scope.Holds property (scope.holding property) := by
  rw [holding_eq]
  simp only [writable, Bool.false_eq_true, if_false]
  split
  · next single isDate => exact .date single isDate
  · next single wrapped _ => exact .wrapper single wrapped
  · next isList isDate => exact .dates isList isDate
  · next isList wrapped _ => exact .wrappers isList wrapped
  · next isList notWrapped notDate => exact .values isList notDate notWrapped
  · next notDate notDates notWrapper notWrappers notValues =>
    by_cases single : property.shape.layers = []
    · refine .value single (notDate single) ?_
      rw [Option.eq_none_iff_forall_ne_some]
      intro type
      exact notWrapper type single
    · refine .container single ?_
      intro isList
      apply notValues isList
      rw [Option.eq_none_iff_forall_ne_some]
      intro type
      exact notWrappers type isList

/-- A list that is missing is held as an empty one. -/
theorem Holds.loaded_missing {holding : Holding} (holds : scope.Holds property holding) :
    holding.loaded .missing =
      some (if property.shape.layers = [.array] then .list [] else .missing) := by
  cases holds with
  | date single | wrapper single | value single => simp [Holding.loaded, single]
  | dates isList | wrappers isList | values isList => simp [Holding.loaded, isList]
  | container _ notList => simp [Holding.loaded, notList]

theorem isLive_of_wrapper? {type : ClientType} (covers : scope.Covers property.shape)
    (wrapped : scope.wrapper? property.shape = some type) : scope.IsLive type := by
  have isObject := (classType_of_wrapper? wrapped).1
  have needs : property.shape.needsClass = true := by simp [Shape.needsClass, isObject]
  rcases covers _ property.shape.mem_parts_self needs with ⟨entry, found⟩
  simp only [wrapper?_eq, isObject, found, if_true] at wrapped
  split at wrapped
  · next hasWrapper =>
    cases wrapped
    exact isLive_wrapperType found hasWrapper
  · cases wrapped

/-- What is copied of a single value or a list agrees unless something live is declared. -/
theorem agrees_iff_of_copies (single : (contentShape property).layers = [])
    (copies : (scope.holding property).Copies) :
    scope.Agrees property ↔ ¬ scope.HoldsLive (scope.declaredType property) := by
  constructor
  · intro agrees live
    rcases agrees.live.mp live with ⟨leaf, -, -, converts⟩
    exact Holding.not_converts_of_copies copies
      ((layers_contentShape_eq_nil_iff property).mp single) converts
  · intro notLive
    refine agrees_of_copies notLive ?_ copies
    rw [declaredType_of_single single] at notLive ⊢
    exact typeOf_eq_of_not_holdsLive _ notLive

/-- Whether a property is a union, or a list of unions, and has dates or wrappers in the
alternatives. -/
def HasLiveAlternative (scope : Scope) (property : ClassProperty ClassId) : Prop :=
  property.shape.kind = .union ∧
    (property.shape.layers = [] ∨ property.shape.layers = [.array]) ∧
    ∃ alternative ∈ property.shape.alternatives.getD [],
      scope.HoldsLive (scope.typeOf true alternative)

theorem not_hasLiveAlternative (notUnion : property.shape.kind ≠ .union) :
    ¬ scope.HasLiveAlternative property := by
  rintro ⟨isUnion, -⟩
  exact notUnion isUnion

/-- What is live in the type of something that is copied is live in the alternatives of a union. -/
theorem holdsLive_declaredType_iff (single : (contentShape property).layers = [])
    (notDate : property.shape.kind ≠ .dateTime)
    (notWrapped : scope.wrapper? property.shape = none)
    (plainly : ¬ scope.HoldsLive (scope.plainType property)) :
    scope.HoldsLive (scope.declaredType property) ↔ scope.HasLiveAlternative property := by
  have kind := kind_contentShape property
  rw [declaredType_of_single single]
  by_cases isUnion : property.shape.kind = .union
  · have layers := (layers_contentShape_eq_nil_iff property).mp single
    rw [holdsLive_typeOf_of_union (kind.trans isUnion), alternatives_contentShape]
    simp [HasLiveAlternative, isUnion, layers]
  · have same : scope.typeOf true (contentShape property) = scope.plainType property := by
      apply typeOf_eq_of_unwrapped
      · rwa [kind]
      · rwa [kind]
      · rwa [wrapper?_contentShape]
    rw [same]
    exact iff_of_false plainly (not_hasLiveAlternative isUnion)

theorem agrees_iff_of_converts {leaf : ClientType} (single : (contentShape property).layers = [])
    (notUnion : property.shape.kind ≠ .union)
    (only : (scope.typeOf true (contentShape property)).outerLeaves = [leaf])
    (live : scope.IsLive leaf)
    (converts : (scope.holding property).Converts leaf property.shape.layers) :
    scope.Agrees property ↔ ¬ scope.HasLiveAlternative property := by
  rw [← declaredType_of_single single] at only
  exact iff_of_true (agrees_of_converts only live converts) (not_hasLiveAlternative notUnion)

theorem outerLeaves_of_wrapper? {type : ClientType}
    (wrapped : scope.wrapper? property.shape = some type) :
    (scope.typeOf true (contentShape property)).outerLeaves = [type] := by
  rcases classType_of_wrapper? wrapped with ⟨isObject, written⟩
  rw [outerLeaves_typeOf_of_object true ((kind_contentShape property).trans isObject),
    classType_contentShape, written]

theorem not_union_of_wrapper? {type : ClientType}
    (wrapped : scope.wrapper? property.shape = some type) : property.shape.kind ≠ .union := by
  simp [(classType_of_wrapper? wrapped).1]

/-- A field agrees unless there are dates or wrappers in the alternatives of a union. -/
theorem agrees_iff (covers : scope.Covers property.shape) (writable : property.isReadOnly = false)
    (plainly : ¬ scope.HoldsLive (scope.plainType property)) :
    scope.Agrees property ↔ ¬ scope.HasLiveAlternative property := by
  have kind := kind_contentShape property
  have single := layers_contentShape_eq_nil_iff property
  have holds := scope.holds_holding writable
  generalize held : scope.holding property = holding at holds
  cases holds with
  | date layers isDate =>
    apply agrees_iff_of_converts (single.mpr (.inl layers)) (by simp [isDate])
      (outerLeaves_typeOf_of_dateTime (kind.trans isDate)) (.inl rfl)
    rw [held, layers]
    exact Holding.converts_date
  | dates layers isDate =>
    apply agrees_iff_of_converts (single.mpr (.inr layers)) (by simp [isDate])
      (outerLeaves_typeOf_of_dateTime (kind.trans isDate)) (.inl rfl)
    rw [held, layers]
    exact Holding.converts_dates
  | wrapper layers wrapped =>
    apply agrees_iff_of_converts (single.mpr (.inl layers)) (not_union_of_wrapper? wrapped)
      (outerLeaves_of_wrapper? wrapped) (isLive_of_wrapper? covers wrapped)
    rw [held, layers]
    exact Holding.converts_wrapper
  | wrappers layers wrapped =>
    apply agrees_iff_of_converts (single.mpr (.inr layers)) (not_union_of_wrapper? wrapped)
      (outerLeaves_of_wrapper? wrapped) (isLive_of_wrapper? covers wrapped)
    rw [held, layers]
    exact Holding.converts_wrappers
  | value layers notDate notWrapped =>
    have isSingle := single.mpr (.inl layers)
    rw [agrees_iff_of_copies isSingle (held ▸ Holding.copies_value),
      holdsLive_declaredType_iff isSingle notDate notWrapped plainly]
  | values layers notDate notWrapped =>
    have isSingle := single.mpr (.inr layers)
    rw [agrees_iff_of_copies isSingle (held ▸ Holding.copies_values),
      holdsLive_declaredType_iff isSingle notDate notWrapped plainly]
  | container notSingle notList =>
    have around : (contentShape property).layers.isEmpty = false := by
      rw [List.isEmpty_eq_false_iff, ne_eq, single, not_or]
      exact ⟨notSingle, notList⟩
    have samePlain : scope.declaredType property = scope.plainType property := by
      rw [declaredType, plainType, around]
    refine iff_of_true ?_ ?_
    · rw [← samePlain] at plainly
      exact agrees_of_copies plainly samePlain (held ▸ Holding.copies_value)
    · rintro ⟨-, layers, -⟩
      exact layers.elim notSingle notList

/-- The field of a property that clients change, in the wrapper of a class of a valid model. The
field mentions one type, and how the property is held can be told from the statement that loads it,
as far as it matters for what is given. The field agrees with that unless the property is a union
with dates or wrappers in its alternatives, or a list of such. What is asked of the plain type is
that no other class and no generic parameter in it is named like a wrapper or a date. -/
theorem field_agrees_iff {model : ServiceModel ClassId} {entry : ClassEntry ClassId}
    (valid : model.validate = .ok ()) (sameTable : scope.table = model.types)
    (among : entry ∈ model.types.classes) (inside : property ∈ entry.properties)
    (writable : property.isReadOnly = false)
    (plainly : ¬ scope.HoldsLive (scope.plainType property)) :
    let holding := scope.holding property
    (scope.field property).types = [scope.declaredType property] ∧
      scope.typeOf false property.shape =
        (if property.shape.layers = [.array] then
          if property.shape.nullable then .orNull (.array (scope.plainType property))
          else .array (scope.plainType property)
        else scope.plainType property) ∧
      (∀ other : Holding, other.load property.name = holding.load property.name ↔
        other = holding) ∧
      (∀ other : Holding, other.plainData property.name = holding.plainData property.name →
        other.given = holding.given) ∧
      holding.loaded .missing =
        some (if property.shape.layers = [.array] then .list [] else .missing) ∧
      (scope.Agrees property ↔ ¬ scope.HasLiveAlternative property) := by
  intro holding
  have isShape : property.shape ∈ model.shapes := by
    rw [ServiceModel.shapes, List.mem_append]
    exact .inr (List.mem_flatMap.mpr ⟨entry, among, List.mem_map_of_mem inside⟩)
  refine ⟨types_field writable, typeOf_eq_plainType, ?_, ?_,
    (holds_holding writable).loaded_missing, ?_⟩
  · intro other
    exact Holding.load_eq_iff
  · intro other
    exact Holding.given_of_plainData
  · exact agrees_iff (covers_of_valid valid sameTable isShape) writable plainly

/-- When a meeting takes place, of which clients may change everything. -/
def timeOf (shape : Shape ClassId) : ClassProperty ClassId where
  name := "time"
  shape := shape
  isReadOnly := false

def meeting (shape : Shape ClassId) : ClassEntry ClassId where
  name := "Meeting"
  sourceName := "Office.Meeting"
  isReadOnly := false
  isObservable := true
  body := .object [timeOf shape]

/-- A model with nothing but meetings. -/
def office (shape : Shape ClassId) : ServiceModel ClassId where
  controllers := []
  types := ClassTable.register (meeting shape) {}

/-- What the wrappers of meetings know. -/
def officeScope (shape : Shape ClassId) : Scope :=
  Options.wrapperScope (office shape)

theorem field_agrees_of_dates :
    let shape : Shape ClassId := { kind := .dateTime, layers := [.array] }
    (office shape).validate = .ok () ∧ (officeScope shape).table = (office shape).types ∧
      meeting shape ∈ (office shape).types.classes ∧ timeOf shape ∈ (meeting shape).properties ∧
      (timeOf shape).isReadOnly = false ∧
      ¬ (officeScope shape).HoldsLive ((officeScope shape).plainType (timeOf shape)) ∧
      (officeScope shape).Agrees (timeOf shape) := by
  intro shape
  have plainly : ¬ (officeScope shape).HoldsLive
      ((officeScope shape).plainType (timeOf shape)) := by
    rintro ⟨leaf, isLeaf, live⟩
    have isText : leaf = .word "string" := List.mem_singleton.mp isLeaf
    rw [isText, isLive_word_iff] at live
    simp at live
  have among : meeting shape ∈ (office shape).types.classes := List.mem_cons_self
  have inside : timeOf shape ∈ (meeting shape).properties := List.mem_cons_self
  have valid : (office shape).validate = .ok () := rfl
  have sameTable : (officeScope shape).table = (office shape).types := rfl
  rcases field_agrees_iff valid sameTable among inside rfl plainly with ⟨-, -, -, -, -, agrees⟩
  refine ⟨valid, sameTable, among, inside, rfl, plainly, agrees.mpr ?_⟩
  rintro ⟨isUnion, -⟩
  cases isUnion

/-- A time that is a date or a number is copied, but the field says that there may be a date. -/
theorem field_not_agrees :
    let shape : Shape ClassId :=
      { kind := .union, alternatives := some [{ kind := .dateTime }, { kind := .int }] }
    (office shape).validate = .ok () ∧ (officeScope shape).hasWrapper (meeting shape) = true ∧
      ((officeScope shape).field (timeOf shape)).spell = "time = ko.observable<Date | number>();" ∧
      (((officeScope shape).holding (timeOf shape)).load "time").spell = "this.time(data.time);" ∧
      (((officeScope shape).holding (timeOf shape)).plainData "time").spell = "this.time()" ∧
      ¬ (officeScope shape).Agrees (timeOf shape) := by
  intro shape
  refine ⟨rfl, rfl, by decide, by decide, by decide, ?_⟩
  have copies : ((officeScope shape).holding (timeOf shape)).Copies := Holding.copies_value
  rw [agrees_iff_of_copies rfl copies, not_not]
  exact ⟨.word "Date", List.mem_cons_self, .inl rfl⟩

end Scope

end ClientGen.TypeScript

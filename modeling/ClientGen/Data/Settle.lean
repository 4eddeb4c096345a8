import ClientGen.Data.Reader

/-!
# Settled sources and alternatives

Settling decides everything that a source leaves open, in the order of the text, and fails at the
first flaw. It is what happens to the members of a record whose type depends on one of them: they
are settled while the record is gone through, and read when its end is reached.
-/

namespace ClientGen.Data

/-- Whether a tag is one that applications define for themselves. -/
def isLocalTag (tag : String) : Bool :=
  tag.toList.head? == some '!'

/-- A value without a tag that every document may use. -/
def Source.withoutCommonTag : Source → Source
  | .tagged tag body => if isLocalTag tag then .tagged tag body else body
  | source => source

/-- Whether a number is at least `-2 ^ below` and less than `2 ^ above`. -/
def isBetweenPowers (below above : Nat) (value : Int) : Bool :=
  -(Nat.pow 2 below : Int) ≤ value && value < (Nat.pow 2 above : Int)

/-- A number that a scalar without quotes spells, if it fits into 64 bits. -/
def settleInt (value : Int) : Except ReadError Source :=
  if isBetweenPowers 63 64 value then .ok (.number (.int value))
  else .error (.misfit .otherKind)

/-- Decides what a scalar without quotes is. Integers of more than 64 bits are refused, and still
longer ones are taken for floats. -/
def settlePlain (text : String) : Except ReadError Source :=
  if text.isEmpty || Plain.isNull text then .ok .null
  else
    match Plain.bool? text with
    | some value => .ok (.bool value)
    | none =>
      let asOther : Except ReadError Source :=
        if Plain.hasLeadingZero text.toList then .ok (.quoted (.ofString text))
        else
          match Plain.float? text with
          | some value => .ok (.number (.real value))
          | none => .ok (.quoted (.ofString text))
      match Plain.int? text with
      | some value => if isBetweenPowers 127 128 value then settleInt value else asOther
      | none => asOther

/-- Decides what a scalar is under one of the tags that every document may use. -/
def settleTagged (tag : String) (text : String) : Except ReadError Source :=
  let orRefuse : Option Source → Except ReadError Source
    | some source => .ok source
    | none => .error (.misfit .otherKind)
  if tag == "tag:yaml.org,2002:bool" then orRefuse ((Plain.bool? text).map .bool)
  else if tag == "tag:yaml.org,2002:int" then
    match Plain.int? text with
    | some value => settleInt value
    | none => .error (.misfit .otherKind)
  else if tag == "tag:yaml.org,2002:float" then
    orRefuse ((Plain.float? text).map fun value => .number (.real value))
  else if tag == nullTag then
    orRefuse (if Plain.isNull text then some .null else none)
  else .ok (.quoted (.ofString text))

mutual

/-- Settles a source in which `levels` containers may be entered. -/
def Source.settle (levels : Nat) : Source → Except ReadError Source
  | .null => .ok .null
  | .bool value => .ok (.bool value)
  | .number value => .ok (.number value)
  | .numeral value =>
    match value.value? with
    | some number => .ok (.number number)
    | none => .error (.flaw .malformed)
  | .quoted value => value.text.map fun text => .quoted (.ofString text)
  | .plain text => settlePlain text
  | .list items flaw =>
    match levels with
    | 0 => .error (.flaw .malformed)
    | levels + 1 => do
      let settled ← settleItems levels items
      checkFlaw flaw
      .ok (.list settled none)
  | .record members flaw =>
    match levels with
    | 0 => .error (.flaw .malformed)
    | levels + 1 => do
      let settled ← settleMembers levels members
      checkFlaw flaw
      .ok (.record settled none)
  | .tagged tag body =>
    if isLocalTag tag then .error (.misfit .otherKind)
    else
      match body with
      | .plain text => settleTagged tag text
      | .quoted value => do settleTagged tag (← value.text)
      | body => body.settle levels
  | .unfinishedNumber => .error (.flaw .truncated)
  | .flawed flaw => .error (.flaw flaw)

/-- Settles the items of a list. -/
def settleItems (levels : Nat) : List Source → Except ReadError (List Source)
  | [] => .ok []
  | item :: items => do
    let first ← item.settle levels
    let others ← settleItems levels items
    .ok (first :: others)

/-- Settles the members of a record. -/
def settleMembers (levels : Nat) :
    List (Quoted × Source) → Except ReadError (List (Quoted × Source))
  | [] => .ok []
  | (key, value) :: members => do
    let name ← key.text
    let first ← value.settle levels
    let others ← settleMembers levels members
    .ok ((.ofString name, first) :: others)

end

/-- The scope for a source that is settled: its nesting was checked before. -/
def Scope.forSettled (source : Source) : Scope :=
  ⟨source.depth, true⟩

/-- The alternative with a given name. -/
def findVariant {α : Type} (variants : List (String × α)) (name : String) : Except ReadError α :=
  match variants.lookup name with
  | some variant => .ok variant
  | none => .error (.misfit (.unknownVariant name (variants.map (·.1))))

namespace Reader

/-- Reads the value of a source that was settled before. -/
def settled {α : Type} (reader : Reader α) (source : Source) : Except ReadError α :=
  reader (.forSettled source) source

/-- Reads one of several names. It may also be the only key of a record, whose value is null, or
the tag of a value that is missing. -/
def choice {α : Type} (variants : List (String × α)) : Reader α := fun scope source =>
  match source with
  | .quoted value => do findVariant variants (← value.text)
  | .plain text => findVariant variants text
  | .tagged tag body =>
    if isLocalTag tag then
      match body with
      | .plain text =>
        if text.isEmpty || Plain.isNull text then
          findVariant variants (String.ofList (tag.toList.drop 1))
        else .error (.misfit .otherKind)
      | _ => .error (.misfit .otherKind)
    else do findVariant variants (← text scope body)
  | .record ((key, value) :: members) flaw => do
    discard scope.enter
    let variant ← findVariant variants (← key.text)
    match value with
    | .null => .ok ()
    | other => .error other.refuse
    if members.isEmpty then
      checkFlaw flaw
      .ok variant
    else .error scope.unexpected
  | .record [] (some flaw) => .error (.flaw flaw)
  | .flawed flaw => .error (.flaw flaw)
  | _ => .error scope.unexpected

/-- Collects the members of a record whose type is named by one of them: the alternative, and the
other members, settled and in reverse order. -/
def unionMembers {α : Type} (tagName : String) (variants : List (String × Reader α))
    (scope : Scope) :
    Option (Reader α) → List (Quoted × Source) → List (Quoted × Source) →
      Except ReadError (Option (Reader α) × List (Quoted × Source))
  | found, others, [] => .ok (found, others)
  | found, others, (key, value) :: members => do
    let name ← key.text
    if name == tagName then
      if found.isSome then .error (.misfit (.duplicateField name))
      else
        let variant ← findVariant variants (← text scope value)
        unionMembers tagName variants scope (some variant) others members
    else
      let value ← value.settle scope.levels
      unionMembers tagName variants scope found ((.ofString name, value) :: others) members

/-- Reads a record whose type is named by its member `tagName`, or a list whose type is named by
its first item. -/
def union {α : Type} (tagName : String) (variants : List (String × Reader α)) : Reader α :=
  fun scope source =>
    let missing : ReadError := .misfit (.missingField tagName)
    match source.withoutCommonTag with
    | .record members flaw => do
      let inner ← scope.enter
      let (found, others) ← unionMembers tagName variants inner none [] members
      checkFlaw flaw
      match found with
      | some variant => settled variant (.record others.reverse none)
      | none => .error missing
    | .list [] flaw => do
      checkFlaw flaw
      .error missing
    | .list (tag :: items) flaw => do
      let inner ← scope.enter
      let variant ← findVariant variants (← text inner tag)
      let others ← settleItems inner.levels items
      checkFlaw flaw
      settled variant (.list others none)
    | other => .error other.refuse

/-- Reads an alternative without fields: whatever members there are do not matter. -/
def unit {α : Type} (value : α) : Reader α := fun _ source =>
  match source with
  | .record _ _ => .ok value
  | .list [] _ => .ok value
  | _ => .error (.misfit .otherKind)

/-- Reads the value of a record with one member, whose key names the alternative. -/
def keyed {α : Type} (variants : List (String × Reader α)) : Reader α := fun scope source =>
  match source with
  | .record ((key, value) :: members) flaw => do
    let inner ← scope.enter
    let variant ← findVariant variants (← key.text)
    let result ← variant inner value
    if members.isEmpty then
      checkFlaw flaw
      .ok result
    else .error scope.unexpected
  | .quoted value => do
    discard (findVariant variants (← value.text))
    .error (.misfit .otherKind)
  | .record [] (some flaw) => .error (.flaw flaw)
  | .flawed flaw => .error (.flaw flaw)
  | _ => .error scope.unexpected

/-- Reads the members of a record whose keys are not known beforehand. -/
def entryList {α : Type} (reader : Reader α) (scope : Scope) :
    List (Quoted × Source) → Except ReadError (List (String × α))
  | [] => .ok []
  | (key, value) :: members => do
    let name ← key.text
    let first ← reader scope value
    let others ← entryList reader scope members
    .ok ((name, first) :: others)

/-- Reads a record whose keys are not known beforehand. -/
def entries {α : Type} (reader : Reader α) : Reader (List (String × α)) := fun scope source =>
  match source.untagged with
  | .record members flaw => do
    let scope ← scope.enter
    let values ← entryList reader scope members
    checkFlaw flaw
    .ok values
  | other => .error other.refuse

end Reader

/-! ## Alternatives with the name in one field and the content in another -/

/-- An alternative: a value without content, or a reader of its content. -/
inductive Alternative (α : Type) where
  | alone (value : α)
  | withContent (reader : Reader α)

/-- Reads the content of an alternative; one without content takes null. -/
def Alternative.read {α : Type} : Alternative α → Reader α
  | .alone value, _, .null => .ok value
  | .alone _, _, source => .error source.refuse
  | .withContent reader, scope, source => reader scope source

/-- What has been found of an alternative. -/
inductive Pairing (α : Type) where
  | nothing
  | kind (alternative : Alternative α)
  | content (source : Source)
  | complete (value : α)

/-- The names of the two fields, and the alternatives. -/
structure PairLayout (α : Type) where
  kindName : String
  contentName : String
  alternatives : List (String × Alternative α)

namespace PairLayout

variable {α : Type}

/-- Takes the field with the name of the alternative. -/
def takeKind (layout : PairLayout α) (scope : Scope) (source : Source) :
    Pairing α → Except ReadError (Pairing α)
  | .nothing => (Reader.choice layout.alternatives scope source).map .kind
  | .content content => do
    let alternative ← Reader.choice layout.alternatives scope source
    (Reader.settled alternative.read content).map .complete
  | .kind _ | .complete _ => .error (.misfit (.duplicateField layout.kindName))

/-- Takes the field with the content. Content that comes first is settled and kept. -/
def takeContent (layout : PairLayout α) (scope : Scope) (source : Source) :
    Pairing α → Except ReadError (Pairing α)
  | .nothing => (source.settle scope.levels).map .content
  | .kind alternative => (alternative.read scope source).map .complete
  | .content _ | .complete _ => .error (.misfit (.duplicateField layout.contentName))

/-- Goes through the members of a record. -/
def collect (layout : PairLayout α) (scope : Scope) :
    Pairing α → List (Quoted × Source) → Except ReadError (Pairing α)
  | found, [] => .ok found
  | found, (key, value) :: members => do
    let name ← key.text
    let found ←
      if name == layout.kindName then layout.takeKind scope value found
      else if name == layout.contentName then layout.takeContent scope value found
      else do
        value.skip
        pure found
    layout.collect scope found members

/-- The value of what was found. -/
def finish (layout : PairLayout α) : Pairing α → Except ReadError α
  | .complete value => .ok value
  | .kind (.alone value) => .ok value
  | .kind (.withContent _) => .error (.misfit (.missingField layout.contentName))
  | .nothing | .content _ => .error (.misfit (.missingField layout.kindName))

/-- Reads one of the alternatives. A list holds the name and the content. -/
def reader (layout : PairLayout α) : Reader α := fun scope source =>
  match source.untagged with
  | .record members flaw => do
    let scope ← scope.enter
    let found ← layout.collect scope .nothing members
    checkFlaw flaw
    layout.finish found
  | .list items flaw => do
    let inner ← scope.enter
    match items with
    | kind :: content :: others => do
      let alternative ← Reader.choice layout.alternatives inner kind
      let value ← alternative.read inner content
      if others.isEmpty then
        checkFlaw flaw
        .ok value
      else .error scope.unexpected
    | [kind] => do
      discard (Reader.choice layout.alternatives inner kind)
      checkFlaw flaw
      .error (.misfit .otherKind)
    | [] => do
      checkFlaw flaw
      .error (.misfit .otherKind)
  | other => .error other.refuse

end PairLayout

end ClientGen.Data

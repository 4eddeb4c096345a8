import ClientGen.Proofs.TypeScript.Grammar
import ClientGen.Proofs.TypeScript.Scope
import Mathlib.Data.Finset.Max

/-!
# What the type of a shape is read as

A shape says what its values are: the base, inside the layers, with the outermost layer first, and
null beside it if the value may be missing. `Scope.sense` puts this down as a list of alternatives,
without regard to how it is written. The text of the type of a shape is read as just that.

The text decides about parentheses by looking for a bar in what it has written already. A bar may be
deep inside, where no parentheses are needed, and then they do no harm; but without any bar the text
is an operand, and brackets may follow it. This is what `ClientType.Reads` carries along, with one
lemma for each way to build a type.

The layers of a shape can be told from what is read, even if unions are taken for sets. The paths
from the outside of a type to the names in it are the same for types that differ only in the order
of alternatives, and the longest path tells how many layers there are, and which ones.
-/

namespace ClientGen.TypeScript

/-! ### The sense of a shape -/

/-- The qualifiers of a name at some place. -/
def Home.qualifiers : Home → List String
  | .here => []
  | .views => ["views"]
  | .wrappers => ["koViews"]

/-- A type that needs no import. -/
def Alternative.word (name : String) : Alternative :=
  .name [] name []

/-- A layer around the values of a type. -/
def layerSense : Layer → List Alternative → List Alternative
  | .array, sense => [.array sense]
  | .dictionary, sense => [.dictionary sense]

namespace Scope

/-- The class of a shape or, where it is live and has one, its wrapper, applied to arguments. -/
def classSense (scope : Scope) (live : Bool) (shape : Shape ClassId)
    (arguments : List (List Alternative)) : Alternative :=
  match scope.classOf shape with
  | .ok entry =>
    if live && scope.hasWrapper entry then
      .name scope.wrapperHome.qualifiers (entry.name ++ scope.wrapperSuffix) arguments
    else .name scope.plainHome.qualifiers entry.name arguments
  | .error _ => .name [] "" arguments

mutual

/-- What a shape says about its values: the base inside the layers, the outermost one first, and
beside it null if the value may be missing. -/
def sense (scope : Scope) (live : Bool) : Shape ClassId → List Alternative
  | ⟨kind, reference, layers, nullable, _, arguments, parameterName, alternatives⟩ =>
    let base : List Alternative :=
      match kind with
      | .boolean => [.word "boolean"]
      | .int | .long | .float | .double | .decimal | .byte => [.word "number"]
      | .string | .guid | .timeSpan => [.word "string"]
      | .dateTime => [.word (if live then "Date" else "string")]
      | .any => [.word "any"]
      | .genericParameter => [.word (parameterName.getD "any")]
      | .union =>
        match sensesOption scope live alternatives with
        | [] => [.word "any"]
        | senses => senses.flatten
      | .enum => [scope.classSense false { kind, reference } []]
      | .object => [scope.classSense live { kind, reference } (sensesOption scope false arguments)]
    let layered := layers.foldr layerSense base
    if nullable then layered ++ [.word "null"] else layered

/-- The senses of some shapes; none if they are missing. -/
def sensesOption (scope : Scope) (live : Bool) :
    Option (List (Shape ClassId)) → List (List Alternative)
  | none => []
  | some shapes => senses scope live shapes

/-- The senses of some shapes. -/
def senses (scope : Scope) (live : Bool) : List (Shape ClassId) → List (List Alternative)
  | [] => []
  | shape :: shapes => sense scope live shape :: senses scope live shapes

end

end Scope

/-! ### What is read in a text -/

open ClientType

/-- Whether some alternatives are what is read in the text of a type. If no bar occurs in it, it is
an operand, so that brackets may follow it. -/
structure ClientType.Reads (type : ClientType) (sense : List Alternative) : Prop where
  asType : ReadAsType (lex type.chars) sense
  asOperand : Text.occursIn bar type.chars = false → ReadAsOperand (lex type.chars) sense

theorem occursIn_append {pattern cs : List Char} (before : List Char)
    (occurs : Text.occursIn pattern cs = true) : Text.occursIn pattern (before ++ cs) = true := by
  induction before with
  | nil => exact occurs
  | cons c before ih => simp [Text.occursIn, ih]

theorem occursIn_append_self {pattern : List Char} (behind : List Char) :
    Text.occursIn pattern (pattern ++ behind) = true := by
  cases whole : pattern ++ behind with
  | nil => simp [List.append_eq_nil_iff.mp whole, Text.occursIn]
  | cons c cs =>
    rw [Text.occursIn, ← whole, Bool.or_eq_true, List.isPrefixOf_iff_prefix]
    exact .inl (List.prefix_append pattern behind)

/-! ### Characters and tokens -/

namespace ClientType

variable {type : ClientType} {types : List ClientType} {sense : List Alternative}
  {senses : List (List Alternative)} {name : String}

theorem chars_apply (head : ClientType) (arguments : List ClientType) :
    (apply head arguments).chars =
      head.chars ++ '<' :: (", ".toList.intercalate (charsOfAll arguments) ++ ['>']) := by
  rw [← List.cons_append, ← List.append_assoc]
  rfl

theorem chars_array (element : ClientType) :
    (array element).chars =
      if Text.occursIn bar element.chars then '(' :: (element.chars ++ ')' :: ['[', ']'])
      else element.chars ++ ['[', ']'] :=
  rfl

theorem chars_union (alternatives : List ClientType) :
    (union alternatives).chars = bar.intercalate (charsOfAll alternatives) :=
  rfl

theorem chars_dictionary (value : ClientType) :
    (dictionary value).chars =
      "\x7b [key: string]: ".toList ++ (value.chars ++ [' ', '\x7d']) := by
  rw [← List.append_assoc]
  rfl

theorem chars_orNull (type : ClientType) :
    (orNull type).chars = type.chars ++ (bar ++ "null".toList) := by
  rw [← List.append_assoc]
  rfl

theorem lex_append_bar (before behind : List Char) :
    lex (before ++ (bar ++ behind)) = lex before ++ .mark '|' :: lex behind := by
  show lex (before ++ ' ' :: '|' :: ' ' :: behind) = _
  simp (disch := decide) only [lex_append_space, lex_mark, lex_space]

theorem lex_named (home : Home) (identifier : IsIdentifier name) :
    lex (named home name).chars = nameTokens home.qualifiers name := by
  cases home with
  | here => exact identifier.lex
  | views =>
    have views : IsIdentifier "views" := ⟨by decide, by decide⟩
    show lex ("views".toList ++ '.' :: name.toList) = _
    rw [lex_append_mark (by decide), identifier.lex, views.lex]
    rfl
  | wrappers =>
    have koViews : IsIdentifier "koViews" := ⟨by decide, by decide⟩
    show lex ("koViews".toList ++ '.' :: name.toList) = _
    rw [lex_append_mark (by decide), identifier.lex, koViews.lex]
    rfl

/-! ### One lemma for each way to build a type -/

namespace Reads

theorem ofOperand (operand : ReadAsOperand (lex type.chars) sense) : type.Reads sense :=
  ⟨.operand operand, fun _ => operand⟩

theorem ofPrimary (primary : ReadAsPrimary (lex type.chars) sense) : type.Reads sense :=
  ofOperand (.primary primary)

theorem word (identifier : IsIdentifier name) :
    (ClientType.word name).Reads [.word name] := by
  apply ofPrimary
  show ReadAsPrimary (lex name.toList) _
  rw [identifier.lex]
  exact .name [] name

theorem named (home : Home) (identifier : IsIdentifier name) :
    (ClientType.named home name).Reads [.name home.qualifiers name []] := by
  apply ofPrimary
  rw [lex_named home identifier]
  exact .name home.qualifiers name

theorem arguments (read : List.Forall₂ ClientType.Reads types senses) (given : types ≠ []) :
    ReadAsArguments (lex (", ".toList.intercalate (charsOfAll types))) senses := by
  induction read with
  | nil => exact (given rfl).elim
  | @cons type sense types senses first others ih =>
    cases others with
    | nil =>
      rw [charsOfAll, charsOfAll, List.intercalate_singleton]
      exact .last first.asType
    | cons second others =>
      rw [charsOfAll, charsOfAll, List.intercalate_cons_cons, List.append_assoc]
      show ReadAsArguments (lex (type.chars ++ ',' :: ' ' :: _)) _
      rw [lex_append_mark (by decide), lex_space]
      exact .cons first.asType (ih (List.cons_ne_nil _ _))

theorem apply (home : Home) (identifier : IsIdentifier name)
    (read : List.Forall₂ ClientType.Reads types senses) (given : types ≠ []) :
    (ClientType.apply (.named home name) types).Reads [.name home.qualifiers name senses] := by
  apply ofPrimary
  rw [chars_apply]
  simp (disch := decide) only [lex_append_mark, lex_nil]
  rw [lex_named home identifier]
  exact .apply home.qualifiers name (arguments read given)

theorem array (read : type.Reads sense) : (ClientType.array type).Reads [.array sense] := by
  apply ofOperand
  rw [chars_array]
  split
  · simp (disch := decide) only [lex_mark, lex_append_mark, lex_nil]
    have enclosed : ReadAsOperand (.mark '(' :: (lex type.chars ++ [.mark ')'])) sense :=
      .primary (.parentheses read.asType)
    simpa using enclosed.array
  · next noBar =>
    simp (disch := decide) only [lex_mark, lex_append_mark, lex_nil]
    exact (read.asOperand (Bool.eq_false_iff.mpr noBar)).array

theorem dictionary (read : type.Reads sense) :
    (ClientType.dictionary type).Reads [.dictionary sense] := by
  have key : IsIdentifier "key" := ⟨by decide, by decide⟩
  have string : IsIdentifier "string" := ⟨by decide, by decide⟩
  apply ofPrimary
  rw [chars_dictionary]
  show ReadAsPrimary (lex ('\x7b' :: ' ' :: '[' :: ("key".toList ++ ':' :: ' ' ::
    ("string".toList ++ ']' :: ':' :: ' ' :: (type.chars ++ ' ' :: '\x7d' :: []))))) _
  simp (disch := decide) only [lex_mark, lex_append_mark, lex_space, lex_append_space, lex_nil,
    key.lex, string.lex]
  exact .dictionary "key" read.asType

theorem orNull (read : type.Reads sense) :
    (ClientType.orNull type).Reads (sense ++ [.word "null"]) := by
  have null : IsIdentifier "null" := ⟨by decide, by decide⟩
  constructor
  · rw [chars_orNull, lex_append_bar, null.lex]
    exact read.asType.append (.operand (.primary (.name [] "null")))
  · intro noBar
    rw [chars_orNull, occursIn_append _ (occursIn_append_self _)] at noBar
    cases noBar

theorem alternatives (read : List.Forall₂ ClientType.Reads types senses) (given : types ≠ []) :
    ReadAsType (lex (bar.intercalate (charsOfAll types))) senses.flatten := by
  induction read with
  | nil => exact (given rfl).elim
  | @cons type sense types senses first others ih =>
    cases others with
    | nil =>
      rw [charsOfAll, charsOfAll, List.intercalate_singleton]
      simpa using first.asType
    | cons second others =>
      rw [charsOfAll, charsOfAll, List.intercalate_cons_cons, List.append_assoc, lex_append_bar]
      exact first.asType.append (ih (List.cons_ne_nil _ _))

theorem union (read : List.Forall₂ ClientType.Reads types senses) (given : types ≠ []) :
    (ClientType.union types).Reads senses.flatten := by
  refine ⟨alternatives read given, ?_⟩
  intro noBar
  -- Without a bar there is only one alternative, and the text is its text.
  cases read with
  | nil => exact (given rfl).elim
  | @cons type sense types senses first others =>
    rw [chars_union] at noBar ⊢
    cases others with
    | nil =>
      rw [charsOfAll, charsOfAll, List.intercalate_singleton] at noBar ⊢
      simpa using first.asOperand noBar
    | cons second others =>
      rw [charsOfAll, charsOfAll, List.intercalate_cons_cons, List.append_assoc,
        occursIn_append _ (occursIn_append_self _)] at noBar
      cases noBar

end Reads

end ClientType

/-! ### Shapes that can be read -/

namespace Scope

/-- Whether the names that stand for a part of a shape are identifiers, and there are arguments
where a list of them is given. -/
structure Spells (scope : Scope) (part : Shape ClassId) : Prop where
  registered : part.needsClass = true →
    ∃ entry, scope.classOf part = .ok entry ∧ IsIdentifier entry.name
  parameter : part.kind = .genericParameter → ∀ name ∈ part.parameterName, IsIdentifier name
  applied : part.arguments ≠ some []

/-- Whether the type of a shape can be read: all parts of the shape are spelled with identifiers,
and so are the names of wrappers. -/
structure Legible (scope : Scope) (shape : Shape ClassId) : Prop where
  suffix : scope.wrapperSuffix.toList.all isIdentifierChar = true
  spells : ∀ part ∈ shape.parts, scope.Spells part

variable {scope : Scope} {live : Bool} {shape : Shape ClassId} {type : ClientType}
  {types : List ClientType} {sense : List Alternative} {senses : List (List Alternative)}

theorem reads_inLayers (read : type.Reads sense) (layers : List Layer) :
    (inLayers layerType layers type).Reads (layers.foldr layerSense sense) := by
  induction layers with
  | nil => exact read
  | cons layer layers ih =>
    cases layer with
    | array => exact ih.array
    | dictionary => exact ih.dictionary

theorem reads_orNull (read : type.Reads sense) (nullable : Bool) :
    (if nullable then .orNull type else type : ClientType).Reads
      (if nullable then sense ++ [.word "null"] else sense) := by
  cases nullable with
  | false => exact read
  | true => exact read.orNull

theorem exists_classType (suffix : scope.wrapperSuffix.toList.all isIdentifierChar = true)
    (registered : ∃ entry, scope.classOf shape = .ok entry ∧ IsIdentifier entry.name)
    (live : Bool) : ∃ home name, IsIdentifier name ∧ scope.classType live shape = .named home name ∧
      ∀ arguments, scope.classSense live shape arguments =
        .name home.qualifiers name arguments := by
  rcases registered with ⟨entry, found, identifier⟩
  simp only [classType_eq, classSense, found]
  split
  · refine ⟨scope.wrapperHome, entry.name ++ scope.wrapperSuffix, ⟨?_, ?_⟩, rfl, fun _ => rfl⟩
    · rw [String.toList_append]
      exact List.append_ne_nil_of_left_ne_nil identifier.nonempty _
    · rw [String.toList_append, List.all_append, identifier.named, suffix]
      rfl
  · exact ⟨scope.plainHome, entry.name, identifier, rfl, fun _ => rfl⟩

mutual

theorem reads_typeOf (suffix : scope.wrapperSuffix.toList.all isIdentifierChar = true)
    (live : Bool) : ∀ shape : Shape ClassId, (∀ part ∈ shape.parts, scope.Spells part) →
      (scope.typeOf live shape).Reads (scope.sense live shape)
  | ⟨kind, reference, layers, nullable, optional, arguments, parameterName, alternatives⟩,
      spells => by
    rw [Shape.parts_eq, List.forall_mem_cons, List.forall_mem_append] at spells
    rcases spells with ⟨own, argumentsSpelled, alternativesSpelled⟩
    have argumentsRead := reads_typesOfOption suffix false arguments argumentsSpelled
    have alternativesRead := reads_typesOfOption suffix live alternatives alternativesSpelled
    rw [typeOf_mk]
    unfold Scope.sense
    apply reads_orNull
    apply reads_inLayers
    cases kind with
    | object =>
      have registered : ∃ entry, scope.classOf { kind := .object, reference } = .ok entry ∧
          IsIdentifier entry.name := own.registered rfl
      rcases exists_classType suffix registered live with
        ⟨home, name, identifier, typed, meant⟩
      simp only [typed, meant]
      cases arguments with
      | none => exact .named home identifier
      | some shapes =>
        cases shapes with
        | nil => exact (own.applied rfl).elim
        | cons first others =>
          exact ClientType.Reads.apply home identifier argumentsRead (List.cons_ne_nil _ _)
    | enum =>
      have registered : ∃ entry, scope.classOf { kind := .enum, reference } = .ok entry ∧
          IsIdentifier entry.name := own.registered rfl
      rcases exists_classType suffix registered false with
        ⟨home, name, identifier, typed, meant⟩
      simp only [typed, meant]
      exact .named home identifier
    | union =>
      cases alternatives with
      | none => exact .word ⟨by decide, by decide⟩
      | some shapes =>
        cases shapes with
        | nil => exact .word ⟨by decide, by decide⟩
        | cons first others =>
          exact ClientType.Reads.union alternativesRead (List.cons_ne_nil _ _)
    | genericParameter =>
      cases parameterName with
      | none => exact .word ⟨by decide, by decide⟩
      | some name => exact .word (own.parameter rfl name rfl)
    | dateTime => cases live <;> exact .word ⟨by decide, by decide⟩
    | _ => exact .word ⟨by decide, by decide⟩

theorem reads_typesOfOption (suffix : scope.wrapperSuffix.toList.all isIdentifierChar = true)
    (live : Bool) : ∀ shapes : Option (List (Shape ClassId)),
      (∀ part ∈ Shape.partsOption shapes, scope.Spells part) →
        List.Forall₂ ClientType.Reads ((scope.typesOfOption live shapes).getD [])
          (scope.sensesOption live shapes)
  | none, _ => .nil
  | some shapes, spells => by
    rw [typesOfOption_some]
    exact reads_typesOf suffix live shapes spells

theorem reads_typesOf (suffix : scope.wrapperSuffix.toList.all isIdentifierChar = true)
    (live : Bool) : ∀ shapes : List (Shape ClassId),
      (∀ part ∈ Shape.partsList shapes, scope.Spells part) →
        List.Forall₂ ClientType.Reads (scope.typesOf live shapes) (scope.senses live shapes)
  | [], _ => .nil
  | shape :: shapes, spells => by
    rw [Shape.partsList, List.forall_mem_append] at spells
    rw [typesOf_cons]
    exact .cons (reads_typeOf suffix live shape spells.1)
      (reads_typesOf suffix live shapes spells.2)

end

end Scope

/-! ### Unions as sets -/

/-- Whether two types have the same alternatives here and inside of containers and arguments, in any
order and with repetitions. -/
inductive SameType : List Alternative → List Alternative → Prop
  | members {sense other} (same : ∀ alternative, alternative ∈ sense ↔ alternative ∈ other) :
    SameType sense other
  | array {sense other rest} (same : SameType sense other) :
    SameType (.array sense :: rest) (.array other :: rest)
  | dictionary {sense other rest} (same : SameType sense other) :
    SameType (.dictionary sense :: rest) (.dictionary other :: rest)
  | argument {qualifiers name before sense other after rest} (same : SameType sense other) :
    SameType (.name qualifiers name (before ++ sense :: after) :: rest)
      (.name qualifiers name (before ++ other :: after) :: rest)
  | symm {sense other} (same : SameType sense other) : SameType other sense
  | trans {sense between other} (same : SameType sense between)
    (further : SameType between other) : SameType sense other

mutual

/-- The containers that are passed on the way to each name of an alternative, arguments aside. -/
def Alternative.paths : Alternative → List (List Layer)
  | .name _ _ _ => [[]]
  | .array element => (pathsOf element).map (.array :: ·)
  | .dictionary value => (pathsOf value).map (.dictionary :: ·)

/-- The containers that are passed on the way to each name of some alternatives. -/
def pathsOf : List Alternative → List (List Layer)
  | [] => []
  | alternative :: others => alternative.paths ++ pathsOf others

end

section Paths

variable {sense other : List Alternative} {path : List Layer}

theorem mem_pathsOf_iff :
    path ∈ pathsOf sense ↔ ∃ alternative ∈ sense, path ∈ alternative.paths := by
  induction sense with
  | nil => simp [pathsOf]
  | cons alternative others ih => simp [pathsOf, ih]

theorem pathsOf_append : pathsOf (sense ++ other) = pathsOf sense ++ pathsOf other := by
  induction sense with
  | nil => rfl
  | cons alternative others ih => simp [pathsOf, ih]

theorem SameType.mem_pathsOf_iff (same : SameType sense other) (path : List Layer) :
    path ∈ pathsOf sense ↔ path ∈ pathsOf other := by
  induction same generalizing path with
  | members same => simp [TypeScript.mem_pathsOf_iff, same]
  | array _ ih => simp [pathsOf, Alternative.paths, ih]
  | dictionary _ ih => simp [pathsOf, Alternative.paths, ih]
  | argument _ _ => simp [pathsOf, Alternative.paths]
  | symm _ ih => exact (ih path).symm
  | trans _ _ first second => exact (first path).trans (second path)

theorem pathsOf_layered (layers : List Layer) :
    pathsOf (layers.foldr layerSense sense) = (pathsOf sense).map (layers ++ ·) := by
  induction layers with
  | nil => simp
  | cons layer layers ih =>
    cases layer <;> simp [layerSense, pathsOf, Alternative.paths, ih]

/-- Paths inside some layers, of which the longest tells what the layers are. -/
theorem eq_of_layered {inside : List (List Layer)} (given : ∃ path, path ∈ inside)
    {first second : List Layer} {outer outer' : Prop}
    (same : ∀ path, ((∃ inner ∈ inside, path = first ++ inner) ∨ outer ∧ path = []) ↔
      (∃ inner ∈ inside, path = second ++ inner) ∨ outer' ∧ path = []) : first = second := by
  rcases given with ⟨path, found⟩
  rcases Finset.exists_max_image inside.toFinset List.length ⟨path, List.mem_toFinset.mpr found⟩
    with ⟨longest, among, isLongest⟩
  rw [List.mem_toFinset] at among
  have shorter (inner : List Layer) (found : inner ∈ inside) : inner.length ≤ longest.length :=
    isLongest inner (List.mem_toFinset.mpr found)
  have forward := (same (first ++ longest)).mp (.inl ⟨longest, among, rfl⟩)
  have backward := (same (second ++ longest)).mpr (.inl ⟨longest, among, rfl⟩)
  have notLonger : second.length ≤ first.length := by
    rcases backward with ⟨inner, inside, equal⟩ | ⟨-, empty⟩
    · have lengths := congrArg List.length equal
      rw [List.length_append, List.length_append] at lengths
      have := shorter inner inside
      omega
    · simp [(List.append_eq_nil_iff.mp empty).1]
  rcases forward with ⟨inner, inside, equal⟩ | ⟨-, empty⟩
  · have lengths := congrArg List.length equal
    rw [List.length_append, List.length_append] at lengths
    have := shorter inner inside
    exact (List.append_inj equal (by omega)).1
  · have noLayers := (List.append_eq_nil_iff.mp empty).1
    rw [noLayers, List.length_nil, Nat.le_zero, List.length_eq_zero_iff] at notLonger
    rw [noLayers, notLonger]

end Paths

namespace Scope

variable {scope : Scope} {live : Bool} {shape : Shape ClassId}

/-- The sense of the base of a shape. -/
def baseSense (scope : Scope) (live : Bool) (shape : Shape ClassId) : List Alternative :=
  scope.sense live { shape with layers := [], nullable := false }

theorem sense_eq (scope : Scope) (live : Bool) (shape : Shape ClassId) :
    scope.sense live shape =
      if shape.nullable then
        shape.layers.foldr layerSense (scope.baseSense live shape) ++ [.word "null"]
      else shape.layers.foldr layerSense (scope.baseSense live shape) := by
  cases shape
  simp only [baseSense, sense]
  rfl

theorem mem_pathsOf_sense_iff {path : List Layer} : path ∈ pathsOf (scope.sense live shape) ↔
    (∃ inner ∈ pathsOf (scope.baseSense live shape), path = shape.layers ++ inner) ∨
      shape.nullable = true ∧ path = [] := by
  have outer : pathsOf [Alternative.word "null"] = [[]] := rfl
  rw [sense_eq]
  split
  · next nullable => simp [pathsOf_append, pathsOf_layered, outer, nullable, eq_comm]
  · next present => simp [pathsOf_layered, present, eq_comm]

mutual

theorem exists_mem_pathsOf_sense (live : Bool) :
    ∀ shape : Shape ClassId, ∃ path, path ∈ pathsOf (scope.sense live shape)
  | ⟨kind, reference, layers, nullable, optional, arguments, parameterName, alternatives⟩ => by
    have inner := exists_mem_pathsOf_sensesOption live alternatives
    have ofWord (name : String) : [] ∈ pathsOf [Alternative.word name] := List.mem_singleton_self []
    have ofClass (live : Bool) (shape : Shape ClassId) (arguments : List (List Alternative)) :
        [] ∈ pathsOf [scope.classSense live shape arguments] := by
      unfold classSense
      split
      · split <;> exact List.mem_singleton_self []
      · exact List.mem_singleton_self []
    suffices found : ∃ path, path ∈ pathsOf (scope.baseSense live
        ⟨kind, reference, layers, nullable, optional, arguments, parameterName, alternatives⟩) by
      rcases found with ⟨path, found⟩
      exact ⟨layers ++ path, mem_pathsOf_sense_iff.mpr (.inl ⟨path, found, rfl⟩)⟩
    unfold baseSense sense
    cases kind with
    | object => exact ⟨[], ofClass live _ _⟩
    | enum => exact ⟨[], ofClass false _ _⟩
    | union =>
      rcases inner with none | ⟨path, found⟩
      · exact ⟨[], by simpa [none] using ofWord "any"⟩
      · cases made : scope.sensesOption live alternatives with
        | nil => simp [made, pathsOf] at found
        | cons first others => exact ⟨path, by simpa [made] using found⟩
    | _ => exact ⟨[], ofWord _⟩

theorem exists_mem_pathsOf_sensesOption (live : Bool) : ∀ shapes : Option (List (Shape ClassId)),
    scope.sensesOption live shapes = [] ∨
      ∃ path, path ∈ pathsOf (scope.sensesOption live shapes).flatten
  | none => .inl rfl
  | some shapes => exists_mem_pathsOf_senses live shapes

theorem exists_mem_pathsOf_senses (live : Bool) : ∀ shapes : List (Shape ClassId),
    scope.senses live shapes = [] ∨ ∃ path, path ∈ pathsOf (scope.senses live shapes).flatten
  | [] => .inl rfl
  | shape :: shapes => by
    rcases exists_mem_pathsOf_sense live shape with ⟨path, found⟩
    refine .inr ⟨path, ?_⟩
    rw [senses, List.flatten_cons, pathsOf_append]
    exact List.mem_append_left _ found

end

/-- Layers can be told from what is read: shapes of the same base inside different layers have
different types, whether or not their values may be missing. -/
theorem layers_eq_of_sameType {first second : Shape ClassId}
    (base : scope.baseSense live first = scope.baseSense live second)
    (same : SameType (scope.sense live first) (scope.sense live second)) :
    first.layers = second.layers := by
  have given : ∃ path, path ∈ pathsOf (scope.baseSense live second) :=
    exists_mem_pathsOf_sense live _
  apply eq_of_layered given
  intro path
  have mem_iff := same.mem_pathsOf_iff path
  rw [mem_pathsOf_sense_iff, mem_pathsOf_sense_iff, base] at mem_iff
  exact mem_iff

/-! ### Results -/

/-- The text of the type of a shape is read as what the shape says, and as nothing else. Shapes of
the same base inside different layers are written differently, and what is read differs too, even if
unions are taken for sets of alternatives. -/
theorem typeOf_read (scope : Scope) (live : Bool) (shape : Shape ClassId)
    (legible : scope.Legible shape) :
    (∀ sense, ReadAsType (lex (scope.typeOf live shape).text.toList) sense ↔
        sense = scope.sense live shape) ∧
      ∀ layers nullable optional, layers ≠ shape.layers →
        let other := { shape with layers, nullable, optional }
        (scope.typeOf live other).text ≠ (scope.typeOf live shape).text ∧
          ¬SameType (scope.sense live other) (scope.sense live shape) := by
  have read {shape : Shape ClassId} (legible : scope.Legible shape) :
      ReadAsType (lex (scope.typeOf live shape).text.toList) (scope.sense live shape) := by
    rw [ClientType.text, String.toList_ofList]
    exact (reads_typeOf legible.suffix live shape legible.spells).asType
  refine ⟨?_, ?_⟩
  · intro sense
    constructor
    · intro reread
      exact reread.unique (read legible)
    · rintro rfl
      exact read legible
  · intro layers nullable optional different other
    have differs : ¬SameType (scope.sense live other) (scope.sense live shape) := by
      intro same
      have base : scope.baseSense live other = scope.baseSense live shape := by
        cases shape
        simp only [baseSense, sense, other]
      exact different (layers_eq_of_sameType base same)
    refine ⟨?_, differs⟩
    intro sameText
    have otherLegible : scope.Legible other := by
      refine ⟨legible.suffix, ?_⟩
      have spells := legible.spells
      rw [Shape.parts_eq, List.forall_mem_cons] at spells ⊢
      exact ⟨⟨spells.1.registered, spells.1.parameter, spells.1.applied⟩, spells.2⟩
    have reread := read otherLegible
    rw [sameText] at reread
    rw [reread.unique (read legible)] at differs
    exact differs (.members fun _ => .rfl)

/-- A scope with one class. -/
def pageScope : Scope where
  table := ⟨[("Page", { name := "Page", sourceName := "Page", body := .object [] })]⟩
  observable := false
  plainHome := .views
  wrapperHome := .wrappers
  wrapperSuffix := ""

/-- Lists of dictionaries of pages of lists of strings and numbers, or null. -/
def pagesShape : Shape ClassId where
  kind := .object
  reference := some 0
  layers := [.array, .dictionary]
  nullable := true
  arguments := some
    [{ kind := .union
       layers := [.array]
       alternatives := some [{ kind := .string, nullable := true }, { kind := .int }] }]

theorem typeOf_read_pages :
    pageScope.Legible pagesShape ∧
      (pageScope.typeOf false pagesShape).text =
        "(\x7b [key: string]: views.Page<(string | null | number)[]> \x7d)[] | null" ∧
      ReadAsType (lex (pageScope.typeOf false pagesShape).text.toList)
        [.array [.dictionary [.name ["views"] "Page"
          [[.array [.word "string", .word "null", .word "number"]]]]], .word "null"] ∧
      (pageScope.typeOf false { pagesShape with layers := [.dictionary, .array] }).text ≠
        (pageScope.typeOf false pagesShape).text := by
  have page : IsIdentifier "Page" := ⟨by decide, by decide⟩
  have legible : pageScope.Legible pagesShape := by
    refine ⟨by decide, ?_⟩
    have parts : pagesShape.parts =
        [pagesShape,
          { kind := .union
            layers := [.array]
            alternatives := some [{ kind := .string, nullable := true }, { kind := .int }] },
          { kind := .string, nullable := true }, { kind := .int }] := rfl
    rw [parts]
    intro part among
    simp only [List.mem_cons, List.not_mem_nil, or_false] at among
    rcases among with rfl | rfl | rfl | rfl
    · exact ⟨fun _ => ⟨_, rfl, page⟩, nofun, nofun⟩
    · exact ⟨nofun, nofun, nofun⟩
    · exact ⟨nofun, nofun, nofun⟩
    · exact ⟨nofun, nofun, nofun⟩
  have results := typeOf_read pageScope false pagesShape legible
  exact ⟨legible, by decide, (results.1 _).mpr rfl,
    (results.2 [.dictionary, .array] true false (by decide)).1⟩

end Scope

end ClientGen.TypeScript

import ClientGen.Proofs.TypeScript.Calls
import ClientGen.Proofs.TypeScript.Classes
import ClientGen.Proofs.TypeScript.Noted

/-!
# Calls in the code of properties

In the text of a property's code the helpers are called that are marked in it, and no others. How a
property has changed, its plain data and how it is loaded are of a few forms, in each of which the
calls can be counted. Fields and the condition that all is valid go on for as long as there are
validators and properties: there the calls are told by induction, because a mark that makes no call
keeps what stands in front of it from what stands behind it.
-/

namespace ClientGen.TypeScript

open Code

variable {front rest tokens : List TypeToken} {c : Char} {name : String} {code : Code}

/-! ### How properties are held -/

/-- Whether the helpers that are called in the text of some code are those that are marked in it. -/
def Code.CallsAsMarked (code : Code) : Prop :=
  ∀ helper : Helper, helper.name ∈ code.called ↔ code.calls helper = true

section Holding

variable (identifier : IsIdentifier name)

include identifier

theorem called_changed (holding : Holding) : (holding.changed name).called =
    match holding with
    | .fixed | .value | .wrapper _ => ["this", "this"]
    | .date => ["fromDate", "this", "this"]
    | .values => ["arrayChanged", "this", "this"]
    | .dates => ["dateArrayChanged", "this", "this"]
    | .wrappers _ => ["this", "this", "this", "this", "x"] := by
  cases holding <;>
    simp (disch := decide) only [Holding.changed_eq, Code.called, tokens_text_cons, tokens_cons_text,
      tokens_singleton, Fragment.spell, identifier.lex] <;>
    (unfold lex; rfl)

theorem called_plainField (holding : Holding) :
    (Code.row [[.text name, .text ": "], holding.plainData name, [.text ","]]).called =
      match holding with
      | .fixed | .value | .values => ["this"]
      | .date => ["fromDate", "this"]
      | .wrapper _ => ["this", "this"]
      | .dates => ["this", "this", "x"]
      | .wrappers _ => ["this", "this", "x"] := by
  cases holding <;>
    simp (disch := decide) only [Holding.plainData_eq, Code.row, List.flatten_cons, List.flatten_nil,
      List.cons_append, List.nil_append, Code.called, tokens_text_cons, tokens_cons_text,
      tokens_singleton, Fragment.spell, identifier.lex] <;>
    (unfold lex; rfl)

/-- Whether a type is a class with an identifier for a name. -/
def ClientType.IsNamedClass (type : ClientType) : Prop :=
  ∃ home name, IsIdentifier name ∧ type = .named home name

/-- Whether the wrappers in which a property is held have identifiers for names. -/
def Holding.IsNamed : Holding → Prop
  | .wrapper type | .wrappers type => type.IsNamedClass
  | _ => True

theorem called_load {holding : Holding} (named : holding.IsNamed) : (holding.load name).called =
    match holding with
    | .fixed | .value | .values => ["this", "data"]
    | .date => ["this", "toDate", "data"]
    | .wrapper _ | .dates | .wrappers _ => ["this", "data", "data"] := by
  cases holding with
  | wrapper type | wrappers type =>
    obtain ⟨home, held, isIdentifier, rfl⟩ := named
    simp (disch := decide) only [Holding.load_eq, Code.called, tokens_text_cons, tokens_cons_text,
      tokens_singleton, Fragment.spell, identifier.lex, ClientType.text, String.toList_ofList,
      ClientType.lex_named home isIdentifier]
    unfold lex
    cases home <;> rfl
  | _ =>
    simp (disch := decide) only [Holding.load_eq, Code.called, tokens_text_cons, tokens_cons_text,
      tokens_singleton, Fragment.spell, identifier.lex]
    unfold lex
    rfl

theorem callsAsMarked_changed (holding : Holding) : (holding.changed name).CallsAsMarked := by
  intro helper
  rw [called_changed identifier]
  cases holding <;> cases helper <;> simp [Holding.changed_eq, Code.calls, Helper.name]

theorem callsAsMarked_plainField (holding : Holding) :
    (Code.row [[.text name, .text ": "], holding.plainData name, [.text ","]]).CallsAsMarked := by
  intro helper
  rw [called_plainField identifier]
  cases holding <;> cases helper <;>
    simp [Holding.plainData_eq, Code.row, Code.calls, Helper.name]

theorem callsAsMarked_load {holding : Holding} (named : holding.IsNamed) :
    (holding.load name).CallsAsMarked := by
  intro helper
  rw [called_load identifier named]
  cases holding <;> cases helper <;> simp [Holding.load_eq, Code.calls, Helper.name]

end Holding

/-! ### Validators -/

/-- Whether no helper but one is called in some tokens. -/
def QuietBut (only : Helper) (tokens : List TypeToken) : Prop :=
  ∀ free (helper : Helper), helper.name ∈ calledIn free tokens → helper = only

variable {only : Helper}

theorem Quiet.but (quiet : Quiet tokens) : QuietBut only tokens :=
  fun free helper called => absurd called (quiet free helper)

theorem QuietBut.append_mark (before : QuietBut only front) (behind : QuietBut only rest)
    (silent : goesOn [.mark c] = false) : QuietBut only (front ++ .mark c :: rest) := by
  intro free helper called
  rw [calledIn_append_mark silent, List.mem_append] at called
  exact called.elim (before free helper) (behind true helper)

theorem QuietBut.mark_cons (quiet : QuietBut only tokens) : QuietBut only (.mark c :: tokens) :=
  fun _ helper => quiet (c != '.') helper

theorem Helper.name_injective : Function.Injective Helper.name := by
  intro first second same
  cases first <;> cases second <;> first | rfl | exact absurd same (by decide)

theorem Helper.isIdentifier_name (helper : Helper) : IsIdentifier helper.name := by
  cases helper <;> exact ⟨by decide, by decide⟩

/-- Where a method of a helper is taken, nothing but the helper is called. -/
theorem quietBut_method (method : String) (isMethod : IsIdentifier method)
    (whole : code.spell.toList = only.name.toList ++ '.' :: method.toList) :
    QuietBut only code.tokens := by
  rw [Code.tokens, whole, lex_append_mark (by decide), only.isIdentifier_name.lex, isMethod.lex]
  intro free helper called
  cases free
  · simp [calledIn, goesOn] at called
  · exact Helper.name_injective (by simpa [calledIn, goesOn] using called)

/-- Nor is anything else if it gets arguments in which no helper is called. -/
theorem quietBut_call (method : String) {arguments : List Char} (isMethod : IsIdentifier method)
    (quiet : Quiet (lex arguments))
    (whole : code.spell.toList =
      only.name.toList ++ '.' :: (method.toList ++ '(' :: (arguments ++ [')']))) :
    QuietBut only code.tokens := by
  have inside : Quiet (lex arguments ++ [.mark ')']) := quiet.append_mark quiet_nil (by decide)
  have isCall : ∀ free, calledIn free
      ([.word only.name] ++ .mark '.' :: ([.word method] ++ .mark '(' ::
        (lex arguments ++ [.mark ')']))) =
        (if free then [only.name] else []) ++ calledIn true (lex arguments ++ [.mark ')']) := by
    intro free
    cases free <;> simp [calledIn, goesOn]
  rw [Code.tokens, whole, lex_append_mark (by decide), lex_append_mark (by decide),
    lex_append_mark (by decide), lex_nil, only.isIdentifier_name.lex, isMethod.lex]
  intro free helper called
  rw [isCall, List.mem_append] at called
  rcases called with here | there
  · split at here
    · exact Helper.name_injective (List.mem_singleton.mp here)
    · cases here
  · exact absurd there (inside true helper)

theorem quietBut_rangeValidator (constraints : Constraints) :
    ∀ validator ∈ rangeValidator constraints, QuietBut .validation validator.tokens := by
  unfold rangeValidator
  split
  · next minimum maximum _ _ =>
    have quiet : Quiet (lex ((numberStyle.spell minimum).toList ++ ',' :: ' ' ::
        (numberStyle.spell maximum).toList)) := by
      rw [lex_append_mark (by decide), lex_space]
      exact (quiet_number minimum).append_mark (quiet_number maximum) (by decide)
    rw [List.forall_mem_singleton]
    exact quietBut_call "isInRange" ⟨by decide, by decide⟩ quiet
      (by simp [spell, Fragment.spell])
  · next maximum _ _ =>
    rw [List.forall_mem_singleton]
    exact quietBut_call "isAtMost" ⟨by decide, by decide⟩ (quiet_number maximum)
      (by simp [spell, Fragment.spell])
  · next minimum _ _ =>
    rw [List.forall_mem_singleton]
    exact quietBut_call "isAtLeast" ⟨by decide, by decide⟩ (quiet_number minimum)
      (by simp [spell, Fragment.spell])
  · simp

theorem quietBut_validators {constraints : Constraints}
    (compared : ∀ other ∈ constraints.compare, IsIdentifier other) :
    ∀ validator ∈ validators constraints, QuietBut .validation validator.tokens := by
  have range := quietBut_rangeValidator constraints
  intro validator among
  simp only [validators, Code.stack, Code.given, List.flatten_cons, List.flatten_nil,
    List.mem_append, List.mem_map, Option.mem_toList] at among
  rcases among with among | ⟨other, given, rfl⟩ | ⟨length, -, rfl⟩ | ⟨length, -, rfl⟩ | among |
    among | among
  · split at among
    · rw [List.mem_singleton.mp among]
      exact quietBut_method "isRequired" ⟨by decide, by decide⟩
        (by simp [spell, Fragment.spell])
    · cases among
  · have this : IsIdentifier "this" := ⟨by decide, by decide⟩
    have quiet : Quiet (lex ("this".toList ++ '.' :: other.toList)) := by
      rw [lex_append_mark (by decide), this.lex, (compared other given).lex]
      intro free helper
      cases free <;> cases helper <;> simp [calledIn, goesOn, Helper.name]
    exact quietBut_call "areSame" ⟨by decide, by decide⟩ quiet
      (by simp [spell, Fragment.spell])
  · exact quietBut_call "hasMinLength" ⟨by decide, by decide⟩ (quiet_length length)
      (by simp [spell, Fragment.spell])
  · exact quietBut_call "hasMaxLength" ⟨by decide, by decide⟩ (quiet_length length)
      (by simp [spell, Fragment.spell])
  · split at among
    · rw [List.mem_singleton.mp among]
      exact quietBut_method "isEmail" ⟨by decide, by decide⟩
        (by simp [spell, Fragment.spell])
    · cases among
  · exact range validator among
  · cases among

theorem quietBut_member_call (quiet : QuietBut only tokens) :
    QuietBut only (.mark '.' :: .word name :: .mark '(' :: tokens) := by
  intro free helper called
  refine quiet true helper ?_
  simpa [calledIn, goesOn] using called

theorem quietBut_chain {validators : List Code}
    (quiet : ∀ validator ∈ validators, QuietBut only validator.tokens) :
    QuietBut only (Code.tokens ((validators.flatMap fun validator =>
      Code.row [[.text ".addValidator("], validator, [.text ")"]]) ++ [.text ";"])) := by
  induction validators with
  | nil =>
    have isMark : lex ";".toList = [.mark ';'] := by decide +kernel
    rw [List.flatMap_nil, List.nil_append, tokens_singleton, Fragment.spell, isMark]
    exact quiet_nil.mark_cons.but
  | cons validator validators ih =>
    rw [List.forall_mem_cons] at quiet
    have opening : lex ".addValidator(".toList = [.mark '.', .word "addValidator", .mark '('] := by
      decide +kernel
    have closing : lex ")".toList = [.mark ')'] := by decide +kernel
    have isCall : (Code.row [[.text ".addValidator("], validator, [.text ")"]] : Code) =
        .text ".addValidator(" :: (validator ++ [.text ")"]) := by simp [Code.row]
    rw [List.flatMap_cons, isCall, List.cons_append, List.cons_append, List.append_assoc,
      List.append_assoc, List.singleton_append, tokens_text_cons (by decide),
      tokens_append_text (by decide), tokens_text_cons (by decide), opening, closing]
    exact quietBut_member_call (quiet.1.append_mark (ih quiet.2) (by decide))

/-! ### Fields and validity -/

variable {scope : Scope} {property : ClassProperty ClassId} {helper : Helper}

/-- The declaration of an observable, or of a property outside of observables. -/
theorem quiet_declaration {type : ClientType} (identifier : IsIdentifier name)
    (quiet : Quiet (lex type.chars)) :
    Quiet (Code.tokens [.text name, .text ": ", .type type, .text ";"]) ∧
      Quiet (Code.tokens [.text name, .text " = ko.observableArray<", .type type, .text ">();"]) ∧
      Quiet (Code.tokens [.text name, .text " = ko.observable<", .type type, .text ">();"]) := by
  have quietMethod (method : String) : Quiet [.word "ko", .mark '.', .word method] := by
    intro free helper
    cases free <;> cases helper <;> simp [calledIn, goesOn, Helper.name]
  have colon : lex ": ".toList = [.mark ':'] := by decide +kernel
  have semicolon : lex ";".toList = [.mark ';'] := by decide +kernel
  have arrays : lex " = ko.observableArray<".toList =
      .mark '=' :: ([.word "ko", .mark '.', .word "observableArray"] ++ [.mark '<']) := by
    decide +kernel
  have singles : lex " = ko.observable<".toList =
      .mark '=' :: ([.word "ko", .mark '.', .word "observable"] ++ [.mark '<']) := by
    decide +kernel
  have closing : lex ">();".toList = [.mark '>', .mark '(', .mark ')', .mark ';'] := by
    decide +kernel
  have behind : Quiet (lex type.chars ++ .mark '>' :: [.mark '(', .mark ')', .mark ';']) :=
    quiet.append_mark quiet_nil.mark_cons.mark_cons.mark_cons (by decide)
  simp (disch := decide) only [tokens_text_cons, tokens_cons_text, tokens_singleton,
    Fragment.spell, identifier.lex, ClientType.text, String.toList_ofList, colon, semicolon, arrays,
    singles, closing]
  refine ⟨?_, ?_, ?_⟩
  · exact quiet_word.append_mark (quiet.append_mark quiet_nil (by decide)) (by decide)
  · simpa using quiet_word.append_mark ((quietMethod _).append_mark behind (by decide)) (by decide)
  · simpa using quiet_word.append_mark ((quietMethod _).append_mark behind (by decide)) (by decide)

/-- The declaration of an observable that is validated calls nothing but validation. -/
theorem called_validated {type : ClientType} (identifier : IsIdentifier name)
    (quiet : Quiet (lex type.chars)) {validators : List Code}
    (chain : ∀ validator ∈ validators, QuietBut .validation validator.tokens) :
    helper.name ∈ Code.called
        (Code.row [[.text name, .text " = ", .helper .validation, .text ".validableObservable<",
            .type type, .text ">()"],
          validators.flatMap fun validator =>
            Code.row [[.text ".addValidator("], validator, [.text ")"]],
          [.text ";"]]) ↔ helper = .validation := by
  let others : Code := (validators.flatMap fun validator =>
    Code.row [[.text ".addValidator("], validator, [.text ")"]]) ++ [.text ";"]
  have closing : lex ">()".toList = [.mark '>', .mark '(', .mark ')'] := by decide +kernel
  have opening : ∀ behind, calledIn true (.word name :: (lex " = ".toList ++
      (.word "validation" :: (lex ".validableObservable<".toList ++ behind)))) =
        "validation" :: calledIn true behind := by
    intro behind
    unfold lex
    rfl
  have ofType : QuietBut .validation (lex type.chars) := quiet.but
  have behind : QuietBut .validation
      (lex type.chars ++ ([.mark '>', .mark '(', .mark ')'] ++ Code.tokens others)) :=
    ofType.append_mark (quietBut_chain chain).mark_cons.mark_cons (by decide)
  have whole : Code.called (.text name :: .text " = " :: .helper .validation ::
      .text ".validableObservable<" :: .type type :: .text ">()" :: others) =
      "validation" :: calledIn true
        (lex type.chars ++ ([.mark '>', .mark '(', .mark ')'] ++ Code.tokens others)) := by
    rw [← opening, ← closing]
    simp (disch := decide) only [Code.called, tokens_text_cons, tokens_cons_text, Fragment.spell,
      identifier.lex, (Helper.isIdentifier_name .validation).lex, ClientType.text,
      String.toList_ofList]
    rfl
  have isRow : Code.row [[.text name, .text " = ", .helper .validation,
        .text ".validableObservable<", .type type, .text ">()"],
      validators.flatMap fun validator =>
        Code.row [[.text ".addValidator("], validator, [.text ")"]],
      [.text ";"]] = .text name :: .text " = " :: .helper .validation ::
        .text ".validableObservable<" :: .type type :: .text ">()" :: others := by
    simp [Code.row, others]
  rw [isRow, whole, List.mem_cons]
  constructor
  · rintro (here | later)
    · exact Helper.name_injective here
    · exact behind true helper later
  · rintro rfl
    exact Or.inl rfl

theorem callsAsMarked_field (identifier : IsIdentifier property.name)
    (compared : ∀ other ∈ property.constraints.compare, IsIdentifier other)
    (grants : scope.Grants ClientType.IsNamed property.shape) :
    (scope.field property).CallsAsMarked := by
  intro helper
  rw [calls_field]
  have quietType (live : Bool) : Quiet (lex (scope.typeOf live property.shape).chars) :=
    ClientType.quiet_chars _ (grants.typeOf live)
  have quietElement : Quiet (lex (scope.elementType true property.shape).chars) :=
    ClientType.quiet_chars _ (grants.elementType true)
  have plain := fun live => quiet_declaration identifier (quietType live)
  rw [Scope.field_eq]
  by_cases readOnly : property.isReadOnly = true
  · simpa [readOnly, isValidated, Code.called] using (plain false).1 true helper
  by_cases isList : property.shape.layers = [.array]
  · simpa [readOnly, isList, isValidated, Code.called] using
      (quiet_declaration identifier quietElement).2.1 true helper
  by_cases validated : isValidated property = true
  · simp only [readOnly, isList, validated, if_true, if_false, true_and, Bool.false_eq_true]
    exact called_validated identifier (quietType true) (quietBut_validators compared)
  · simpa [readOnly, isList, validated, Code.called] using
      (plain property.shape.layers.isEmpty).2.2 true helper

theorem quiet_conditions {validated : List (ClassProperty ClassId)}
    (identifiers : ∀ property ∈ validated, IsIdentifier property.name) :
    Quiet (Code.tokens ((validated.flatMap fun property =>
      [.text " && !this.", .text property.name, .text ".validating() && !this.",
        .text property.name, .text ".errorMessage()"]) ++ [.text ");"])) := by
  induction validated with
  | nil =>
    have closing : lex ");".toList = [.mark ')', .mark ';'] := by decide +kernel
    rw [List.flatMap_nil, List.nil_append, tokens_singleton, Fragment.spell, closing]
    exact quiet_nil.mark_cons.mark_cons
  | cons property validated ih =>
    rw [List.forall_mem_cons] at identifiers
    have condition : ∀ free behind, calledIn free (lex " && !this.".toList ++
        (.word property.name :: (lex ".validating() && !this.".toList ++
          (.word property.name :: (lex ".errorMessage()".toList ++ behind))))) =
        "this" :: "this" :: calledIn true behind := by
      intro free behind
      unfold lex
      rfl
    intro free helper
    simp (disch := decide) only [List.flatMap_cons, List.cons_append, List.nil_append,
      tokens_text_cons, tokens_cons_text, Fragment.spell, identifiers.1.lex, condition,
      List.mem_cons, not_or]
    refine ⟨by cases helper <;> decide, by cases helper <;> decide, ih identifiers.2 true helper⟩

/-- The condition that all values are valid calls nothing but what tells about loading. -/
theorem called_condition {validated : List (ClassProperty ClassId)}
    (identifiers : ∀ property ∈ validated, IsIdentifier property.name) :
    helper.name ∈ Code.called (Code.indent (Code.row
        [[.text "public isValid = ko.pureComputed(() => !", .helper .loading, .text "()"],
          validated.flatMap fun property =>
            [.text " && !this.", .text property.name, .text ".validating() && !this.",
              .text property.name, .text ".errorMessage()"],
          [.text ");"]])) ↔ helper = .loading := by
  have opening : ∀ behind, calledIn true (lex "    ".toList ++
      (lex "public isValid = ko.pureComputed(() => !".toList ++
        (.word (Helper.name .loading) :: (lex "()".toList ++ behind)))) =
      "ko" :: Helper.name .loading :: calledIn true behind := by
    intro behind
    unfold lex
    rfl
  have others := quiet_conditions identifiers true helper
  simp (disch := decide) only [Code.called, Code.indent, Code.row, List.flatten_cons,
    List.flatten_nil, List.append_nil, List.cons_append, List.nil_append, tokens_text_cons,
    tokens_cons_text, Fragment.spell, (Helper.isIdentifier_name .loading).lex]
  rw [opening, List.mem_cons, List.mem_cons]
  constructor
  · rintro (isKo | isLoading | later)
    · have notKo : helper.name ≠ "ko" := by cases helper <;> decide
      exact absurd isKo notKo
    · exact Helper.name_injective isLoading
    · exact absurd later others
  · rintro rfl
    exact Or.inr (Or.inl rfl)

theorem callsAsMarked_validity {properties : List (ClassProperty ClassId)}
    (identifiers : ∀ property ∈ properties, IsIdentifier property.name) :
    ∀ line ∈ validity properties, line.CallsAsMarked := by
  have kept : ∀ property ∈ properties.filter isValidated, IsIdentifier property.name :=
    fun property among => identifiers property (List.mem_filter.mp among).1
  rw [validity_eq]
  split
  · simp
  · rw [List.forall_mem_cons, List.forall_mem_singleton]
    constructor
    · intro helper
      simp [Code.called, tokens_nil, calledIn]
    · intro helper
      rw [called_condition kept]
      simp

end ClientGen.TypeScript

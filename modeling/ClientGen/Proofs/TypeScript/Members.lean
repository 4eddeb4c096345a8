import ClientGen.Proofs.TypeScript.Marked
import ClientGen.Proofs.TypeScript.Holding

/-!
# Where helpers are called

A wrapper calls helpers in the code of the properties of its class, and nowhere else. What a
property calls can be told from its shape and its constraints: single dates are turned into objects
and back, lists that are copied are compared item by item, and constraints need what checks them.
-/

namespace ClientGen.TypeScript

open Code

variable {helper : Helper} {scope : Scope} {entry : ClassEntry ClassId}
  {property : ClassProperty ClassId} {lines others : List Code} {line : Code}

/-! ### The code of properties -/

/-- The code in a wrapper that belongs to the properties of its class: how they are declared, when
they have changed, their plain data, how they are loaded, and when they are valid. -/
def Scope.memberCode (scope : Scope) (entry : ClassEntry ClassId) : List Code :=
  stack
    [entry.properties.map scope.field,
      (entry.properties.filter fun property => !property.isReadOnly).map fun property =>
        (scope.holding property).changed property.name,
      scope.plainFields entry.properties,
      entry.properties.map fun property => (scope.holding property).load property.name,
      validity entry.properties]

theorem calls_changedCondition (properties : List (ClassProperty ClassId)) :
    (scope.changedCondition properties).calls helper =
      ((properties.filter fun property => !property.isReadOnly).map fun property =>
        (scope.holding property).changed property.name).any (Code.calls helper) := by
  rw [Scope.changedCondition_eq]
  split
  · next none => rw [none]; rfl
  · exact dependsOn_join

/-- The wrapper of a class calls the helpers that the code of its properties calls. -/
theorem any_calls_wrapperClass : (scope.wrapperClass entry).any (Code.calls helper) =
    (scope.memberCode entry).any (Code.calls helper) := by
  simp only [Scope.wrapperClass_eq, Scope.memberCode, Scope.wrapperFunctions_eq,
    any_dependsOn_stack, List.any_cons, List.any_nil, any_dependsOn_comment, List.any_flatMap,
    any_dependsOn_documented, List.any_map, dependsOn_comp_indent_unless_blank, dependsOn_row,
    dependsOn_text, dependsOn_type, ClientType.dependsOn_helper, dependsOn_nil, dependsOn_indent,
    calls_changedCondition, Bool.or_false, Bool.false_or, Bool.or_assoc]
  rfl

theorem infix_join {separator : String} {parts : List Code} {part : Code} (among : part ∈ parts) :
    part <:+: join separator parts := by
  induction parts with
  | nil => cases among
  | cons first parts ih =>
    cases parts with
    | nil =>
      rw [List.mem_singleton.mp among]
      exact List.infix_rfl
    | cons next parts =>
      show part <:+: first ++ .text separator :: join separator (next :: parts)
      rcases List.mem_cons.mp among with rfl | later
      · exact (List.prefix_append part _).isInfix
      · exact ((ih later).trans (List.suffix_cons _ _).isInfix).trans
          (List.suffix_append first _).isInfix

theorem infix_changedCondition {properties : List (ClassProperty ClassId)}
    (among : property ∈ properties) (writable : property.isReadOnly = false) :
    (scope.holding property).changed property.name <:+: scope.changedCondition properties := by
  have kept : property ∈ properties.filter fun property => !property.isReadOnly :=
    List.mem_filter.mpr ⟨among, by simp [writable]⟩
  rw [Scope.changedCondition_eq]
  split
  · next none =>
    rw [none] at kept
    cases kept
  · exact infix_join (List.mem_map_of_mem kept)

theorem infix_indent (code : Code) : code <:+: code.indent :=
  (List.suffix_cons _ code).isInfix

/-- A line of the functions of a wrapper stands in it, further in. -/
theorem exists_line_of_function {code : Code}
    (inside : ∃ line ∈ scope.wrapperFunctions
      [.type (.named scope.plainHome entry.name), .text (genericList entry)] entry.properties,
      code <:+: line) : ∃ line ∈ scope.wrapperClass entry, code <:+: line := by
  obtain ⟨line, among, isInfix⟩ := inside
  let moved (line : Code) : Code := if line.isEmpty then line else line.indent
  refine ⟨moved line, ?_, ?_⟩
  · have isGroup := List.mem_map_of_mem (f := moved) among
    simp only [Scope.wrapperClass_eq, stack, List.flatten_cons, List.mem_append]
    exact .inr (.inr (.inr (.inr (.inl isGroup))))
  · simp only [moved]
    split
    · exact isInfix
    · exact isInfix.trans (infix_indent line)

/-- The code of properties stands in the lines of the wrapper. -/
theorem exists_line_of_mem_memberCode {code : Code} (among : code ∈ scope.memberCode entry) :
    ∃ line ∈ scope.wrapperClass entry, code <:+: line := by
  simp only [Scope.memberCode, stack, List.flatten_cons, List.flatten_nil, List.mem_append,
    List.append_nil, List.mem_map] at among
  rcases among with ⟨property, among, rfl⟩ | ⟨property, among, rfl⟩ | field |
    ⟨property, among, rfl⟩ | valid
  · refine ⟨(scope.field property).indent, ?_, infix_indent _⟩
    have isLine : (scope.field property).indent ∈ entry.properties.flatMap fun property =>
        [] :: documented property.documentation (scope.field property) :=
      List.mem_flatMap.mpr ⟨property, among, by simp [documented]⟩
    simp only [Scope.wrapperClass_eq, stack, List.flatten_cons, List.mem_append]
    exact .inr (.inr (.inr (.inl isLine)))
  · apply exists_line_of_function
    obtain ⟨isOwn, writable⟩ := List.mem_filter.mp among
    refine ⟨(scope.changedCondition entry.properties).indent.indent, ?_, ?_⟩
    · simp [Scope.wrapperFunctions_eq, stack]
    · exact (infix_changedCondition isOwn (by simpa using writable)).trans
        ((infix_indent _).trans (infix_indent _))
  · apply exists_line_of_function
    refine ⟨code.indent.indent, ?_, (infix_indent _).trans (infix_indent _)⟩
    have isLine := List.mem_map_of_mem (f := fun field : Code => field.indent.indent) field
    simp only [Scope.wrapperFunctions_eq, stack, List.flatten_cons, List.mem_append]
    exact .inr (.inl isLine)
  · apply exists_line_of_function
    refine ⟨((scope.holding property).load property.name).indent, ?_, infix_indent _⟩
    have isLine : ((scope.holding property).load property.name).indent ∈
        entry.properties.map fun property =>
          ((scope.holding property).load property.name).indent :=
      List.mem_map.mpr ⟨property, among, rfl⟩
    simp only [Scope.wrapperFunctions_eq, stack, List.flatten_cons, List.mem_append]
    exact .inr (.inr (.inr (.inl isLine)))
  · refine ⟨code, ?_, List.infix_rfl⟩
    simp only [Scope.wrapperClass_eq, stack, List.flatten_cons, List.mem_append]
    exact .inr (.inr (.inr (.inr (.inr (.inl valid)))))

/-! ### What properties need -/

namespace Scope

/-- Whether the code of a property in a wrapper needs a helper. Nothing is needed for what clients
do not change, for the wrappers of other objects and in containers other than lists. -/
def Needs (scope : Scope) (property : ClassProperty ClassId) (helper : Helper) : Prop :=
  property.isReadOnly = false ∧
    match helper with
    | .toDate | .fromDate => property.shape.layers = [] ∧ property.shape.kind = .dateTime
    | .dateArrayChanged => property.shape.layers = [.array] ∧ property.shape.kind = .dateTime
    | .arrayChanged => property.shape.layers = [.array] ∧ property.shape.kind ≠ .dateTime ∧
        scope.wrapper? property.shape = none
    | .validation | .loading => property.shape.layers = [] ∧ property.constraints.isEmpty = false

theorem holds_of_holding {holding : Holding} (held : scope.holding property = holding)
    (changing : holding ≠ .fixed) :
    property.isReadOnly = false ∧ scope.Holds property holding := by
  have writable : property.isReadOnly = false := by
    by_contra readOnly
    rw [Bool.not_eq_false] at readOnly
    apply changing
    simp [← held, Scope.holding_eq, readOnly]
  refine ⟨writable, ?_⟩
  rw [← held]
  exact scope.holds_holding writable

theorem holding_eq_date_iff : scope.holding property = .date ↔ scope.Needs property .toDate := by
  constructor
  · intro held
    obtain ⟨writable, holds⟩ := holds_of_holding held nofun
    cases holds with
    | date single isDate => exact ⟨writable, single, isDate⟩
  · rintro ⟨writable, single, isDate⟩
    simp [holding_eq, writable, single, isDate]

theorem holding_eq_dates_iff :
    scope.holding property = .dates ↔ scope.Needs property .dateArrayChanged := by
  constructor
  · intro held
    obtain ⟨writable, holds⟩ := holds_of_holding held nofun
    cases holds with
    | dates isList isDate => exact ⟨writable, isList, isDate⟩
  · rintro ⟨writable, isList, isDate⟩
    simp [holding_eq, writable, isList, isDate]

theorem holding_eq_values_iff :
    scope.holding property = .values ↔ scope.Needs property .arrayChanged := by
  constructor
  · intro held
    obtain ⟨writable, holds⟩ := holds_of_holding held nofun
    cases holds with
    | values isList notDate notWrapped => exact ⟨writable, isList, notDate, notWrapped⟩
  · rintro ⟨writable, isList, notDate, notWrapped⟩
    simp [holding_eq, writable, isList, notWrapped]

theorem isValidated_iff : isValidated property = true ↔ scope.Needs property .validation := by
  simp [isValidated, Needs, and_assoc]

end Scope

theorem calls_changed {holding : Holding} {name : String} :
    (holding.changed name).calls helper = true ↔ holding = .date ∧ helper = .fromDate ∨
      holding = .values ∧ helper = .arrayChanged ∨
        holding = .dates ∧ helper = .dateArrayChanged := by
  cases holding <;> simp [Holding.changed_eq]

theorem calls_plainField {holding : Holding} {name : String} :
    (Code.row [[.text name, .text ": "], holding.plainData name, [.text ","]]).calls helper = true ↔
      holding = .date ∧ helper = .fromDate := by
  cases holding <;> simp [Holding.plainData_eq]

theorem calls_load {holding : Holding} {name : String} :
    (holding.load name).calls helper = true ↔ holding = .date ∧ helper = .toDate := by
  cases holding <;> simp [Holding.load_eq]

/-- The code of properties calls what one of them needs. -/
theorem any_calls_memberCode_iff : (scope.memberCode entry).any (Code.calls helper) = true ↔
    ∃ property ∈ entry.properties, scope.Needs property helper := by
  have ofValidity : (validity entry.properties).any (Code.calls helper) = true ↔ _ :=
    calls_validity
  rw [List.any_eq_true] at ofValidity
  simp only [Scope.memberCode, Scope.plainFields_eq, any_dependsOn_stack, List.any_cons,
    List.any_map, List.any_nil, Bool.or_false, Bool.or_eq_true, List.any_eq_true, Function.comp_apply,
    calls_field, calls_changed, calls_plainField, calls_load, ofValidity, List.mem_filter,
    Bool.not_eq_true']
  constructor
  · rintro (⟨property, among, validated, rfl⟩ | ⟨property, ⟨among, writable⟩, called⟩ |
      ⟨property, among, held, rfl⟩ | ⟨property, among, held, rfl⟩ |
      ⟨⟨property, among, validated⟩, rfl⟩)
    · exact ⟨property, among, Scope.isValidated_iff.mp validated⟩
    · refine ⟨property, among, ?_⟩
      rcases called with ⟨held, rfl⟩ | ⟨held, rfl⟩ | ⟨held, rfl⟩
      · exact Scope.holding_eq_date_iff.mp held
      · exact Scope.holding_eq_values_iff.mp held
      · exact Scope.holding_eq_dates_iff.mp held
    · exact ⟨property, among, Scope.holding_eq_date_iff.mp held⟩
    · exact ⟨property, among, Scope.holding_eq_date_iff.mp held⟩
    · refine ⟨property, among, ?_⟩
      show scope.Needs property .validation
      exact Scope.isValidated_iff.mp validated
  · rintro ⟨property, among, needed⟩
    have writable := needed.1
    cases helper with
    | toDate =>
      have held := Scope.holding_eq_date_iff.mpr needed
      exact .inr (.inr (.inr (.inl ⟨property, among, held, rfl⟩)))
    | fromDate =>
      have alike : scope.Needs property .toDate := needed
      have held := Scope.holding_eq_date_iff.mpr alike
      exact .inr (.inr (.inl ⟨property, among, held, rfl⟩))
    | arrayChanged =>
      have held := Scope.holding_eq_values_iff.mpr needed
      exact .inr (.inl ⟨property, ⟨among, writable⟩, .inr (.inl ⟨held, rfl⟩)⟩)
    | dateArrayChanged =>
      have held := Scope.holding_eq_dates_iff.mpr needed
      exact .inr (.inl ⟨property, ⟨among, writable⟩, .inr (.inr ⟨held, rfl⟩)⟩)
    | validation =>
      exact .inl ⟨property, among, Scope.isValidated_iff.mpr needed, rfl⟩
    | loading =>
      have alike : scope.Needs property .validation := needed
      have validated := Scope.isValidated_iff.mpr alike
      exact .inr (.inr (.inr (.inr ⟨⟨property, among, validated⟩, rfl⟩)))

end ClientGen.TypeScript

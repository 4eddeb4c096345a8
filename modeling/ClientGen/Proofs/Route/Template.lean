import ClientGen.Proofs.Route.Placeholder
import ClientGen.Proofs.Text.Segment
import ClientGen.Route.Basic
import Mathlib.Data.List.DropRight

/-!
# Templates of routes

The prefix of a controller and the fragment of an action are templates: characters that stand for
themselves, tokens for the names of the controller and of the action, and placeholders as servers
write them. A route is made from the text of its templates by replacing one thing after the other.
Because braces and brackets stand nowhere but around placeholders and tokens, none of the
replacements sees anything of another part, and the route is made part by part.
-/

namespace ClientGen.Route

/-- The characters that placeholders and tokens are told by. -/
def marks : List Char :=
  ['\x7b', '\x7d', '[', ']']

/-- A placeholder as servers write it. -/
structure Slot where
  stars : Nat
  placeholder : Placeholder
  constraints : List String
  proper : placeholder.IsProper
  lawful : ∀ constraint ∈ constraints, constraint.toList.all isConstraintChar = true

/-- A part of a template. -/
inductive Part where
  | literal (c : Char) (plain : c ∉ marks)
  | controller
  | action
  | slot (slot : Slot)

/-- A template for routes. -/
abbrev Template := List Part

/-- The text of the constraints of a placeholder. -/
def Slot.limits (slot : Slot) : List Char :=
  slot.constraints.flatMap fun constraint => ':' :: constraint.toList

/-- The text of a placeholder. -/
def Slot.text (slot : Slot) : List Char :=
  '\x7b' :: (List.replicate slot.stars '*' ++
    (slot.placeholder.name.toList ++ (slot.limits ++ slot.placeholder.ending)))

/-- The text of a part with something for each token, and with placeholders in their plain form. -/
def Part.write (controller action : List Char) : Part → List Char
  | .literal c _ => [c]
  | .controller => controller
  | .action => action
  | .slot written => written.placeholder.plain

/-- The token for the name of the controller. -/
def controllerToken : List Char := "[controller]".toList

/-- The token for the name of the action. -/
def actionToken : List Char := "[action]".toList

/-- The text of a part. -/
def Part.text : Part → List Char
  | .slot written => written.text
  | part => part.write controllerToken actionToken

/-- Whether a part is a slash. -/
def Part.isSlash : Part → Bool
  | .literal c _ => c == '/'
  | _ => false

namespace Template

/-- The characters of a template. -/
def chars (template : Template) : List Char :=
  template.flatMap Part.text

/-- The text of a template. -/
def text (template : Template) : String :=
  String.ofList template.chars

/-- The characters of a template with something for each token, and with placeholders in their plain
form. -/
def write (controller action : List Char) (template : Template) : List Char :=
  template.flatMap (Part.write controller action)

/-- The route of a template for a controller and an action. -/
def route (controller action : String) (template : Template) : String :=
  String.ofList (template.write controller.toList action.toList)

/-- The placeholders of a template. -/
def placeholders (template : Template) : List Placeholder :=
  template.filterMap fun
    | .slot slot => some slot.placeholder
    | _ => none

/-- The template behind a slash. -/
def afterSlash? : Template → Option Template
  | part :: others => if part.isSlash then some others else none
  | [] => none

/-- The template behind the mark that makes it a whole route: a slash, which may follow a tilde. -/
def absolute? : Template → Option Template
  | .literal '~' _ :: others => afterSlash? others
  | template => template.afterSlash?

/-- The template without the slashes at its end. -/
def dropSlashes (template : Template) : Template :=
  template.rdropWhile Part.isSlash

/-- The template for the routes of an action: the prefix of the controller, which is its name if it
declares none, without slashes at its end, then a slash and the fragment. A fragment stands alone if
there is nothing before the slash, and if it has the mark of a whole route, which is left out. -/
def join (stem : Option Template) (fragment : Template) : Template :=
  match fragment.absolute? with
  | some route => route
  | none =>
    match (stem.getD [.controller]).dropSlashes with
    | [] => fragment
    | stem => stem ++ .literal '/' (by decide) :: fragment

end Template

/-- Whether a text has no braces and no brackets in it. -/
def IsPlainName (name : String) : Prop :=
  ∀ c ∈ name.toList, c ∉ marks

instance : DecidablePred IsPlainName :=
  fun name => List.decidableBAll (fun c => c ∉ marks) name.toList

/-- The template of a text that stands for itself. -/
def Template.literals (text : String) (plain : IsPlainName text) : Template :=
  text.toList.pmap Part.literal plain

variable {slot : Slot} {part : Part} {template : Template} {controller action : List Char}

/-! ### Placeholders with stars and constraints -/

theorem constrained?_of_ne (c : Char) (other : c ≠ '\x7b') (cs : List Char) :
    constrained? (c :: cs) = none := by
  unfold constrained?
  split
  · next whole =>
    rw [List.cons.injEq] at whole
    exact (other whole.1).elim
  · rfl

theorem plain?_of_ne (c : Char) (other : c ≠ '\x7b') (cs : List Char) :
    plain? (c :: cs) = none := by
  unfold plain?
  split
  · next whole =>
    rw [List.cons.injEq] at whole
    exact (other whole.1).elim
  · rfl

theorem Slot.isConstraintChar_of_mem_limits (slot : Slot) :
    ∀ c ∈ slot.limits, isConstraintChar c = true := by
  intro c among
  rcases List.mem_flatMap.mp among with ⟨constraint, isConstraint, inside⟩
  rcases List.mem_cons.mp inside with rfl | inside
  · decide
  · exact List.all_eq_true.mp (slot.lawful constraint isConstraint) c inside

theorem Slot.limits_cases (slot : Slot) :
    slot.limits = [] ∨ ∃ limits, slot.limits = ':' :: limits := by
  unfold limits
  cases slot.constraints with
  | nil => exact .inl rfl
  | cons constraint constraints => exact .inr ⟨_, rfl⟩

theorem Placeholder.ending_cases (placeholder : Placeholder) :
    ∃ c others, placeholder.ending = c :: others ∧ (c = '?' ∨ c = '\x7d') := by
  rcases placeholder with ⟨name, isOptional⟩
  cases isOptional
  · exact ⟨_, _, rfl, .inr rfl⟩
  · exact ⟨_, _, rfl, .inl rfl⟩

theorem not_isConstraintChar_ending (placeholder : Placeholder) (behind : List Char) :
    ∀ c ∈ (placeholder.ending ++ behind).head?, isConstraintChar c = false := by
  rcases placeholder.ending_cases with ⟨c, others, whole, isEnd⟩
  rw [whole, List.cons_append, List.head?_cons]
  rintro _ ⟨⟩
  rcases isEnd with rfl | rfl <;> decide

theorem not_isWord_limits (slot : Slot) (behind : List Char) :
    ∀ c ∈ (slot.limits ++ (slot.placeholder.ending ++ behind)).head?, Text.isWord c = false := by
  rcases slot.limits_cases with none | ⟨limits, some⟩
  · rcases slot.placeholder.ending_cases with ⟨c, others, whole, isEnd⟩
    rw [none, whole, List.nil_append, List.cons_append, List.head?_cons]
    rintro _ ⟨⟩
    rcases isEnd with rfl | rfl <;> decide
  · rw [some, List.cons_append, List.head?_cons]
    rintro _ ⟨⟩
    decide

theorem not_star_name (slot : Slot) (behind : List Char) :
    ∀ c ∈ (slot.placeholder.name.toList ++ behind).head?, (c == '*') = false := by
  have words := slot.proper.words
  cases name : slot.placeholder.name.toList with
  | nil => exact (slot.proper.named name).elim
  | cons c others =>
    rw [name] at words
    rw [List.cons_append, List.head?_cons]
    rintro _ ⟨⟩
    rw [beq_eq_false_iff_ne]
    rintro rfl
    have word := words '*' List.mem_cons_self
    revert word
    decide

theorem constraints_limits_append (slot : Slot) (behind : List Char) :
    constraints (slot.limits ++ (slot.placeholder.ending ++ behind)) = slot.limits := by
  have chars := slot.isConstraintChar_of_mem_limits
  rcases slot.limits_cases with none | ⟨limits, some⟩
  · rcases slot.placeholder.ending_cases with ⟨c, others, whole, isEnd⟩
    rw [none, whole]
    rcases isEnd with rfl | rfl <;> rfl
  · rw [some, List.forall_mem_cons] at chars
    rw [some, List.cons_append, constraints,
      Text.takeWhile_append_of_head? chars.2 (not_isConstraintChar_ending _ _)]

/-- A placeholder is recognised as a whole, whatever stands behind it. -/
theorem constrained?_text_append (slot : Slot) (behind : List Char) :
    constrained? (slot.text ++ behind) = some (slot.placeholder, slot.text.length) := by
  have stars : ∀ c ∈ List.replicate slot.stars '*', (c == '*') = true := by
    intro c among
    rw [(List.mem_replicate.mp among).2]
    rfl
  have given : slot.placeholder.name.toList.isEmpty = false := by
    rw [List.isEmpty_eq_false_iff]
    exact slot.proper.named
  have length : 1 + (List.replicate slot.stars '*').length +
      slot.placeholder.name.toList.length + slot.limits.length +
        slot.placeholder.ending.length = slot.text.length := by
    simp only [Slot.text, List.length_cons, List.length_append]
    omega
  rw [← length, Slot.text, List.cons_append, List.append_assoc, List.append_assoc,
    List.append_assoc, constrained?]
  dsimp only
  rw [Text.takeWhile_append_of_head? stars (not_star_name slot _), List.drop_left,
    Text.takeWhile_append_of_head? slot.proper.words (not_isWord_limits slot _), List.drop_left,
    constraints_limits_append, List.drop_left, closing?_ending, given, String.ofList_toList]
  rfl

/-! ### Bringing placeholders into their plain form -/

theorem simplify_slot_append (slot : Slot) (behind : List Char) :
    simplify (slot.text ++ behind) = slot.placeholder.plain ++ simplify behind := by
  have given : slot.text ≠ [] := List.cons_ne_nil _ _
  rw [simplify,
    Text.pieces_append_of_recognised behind given (constrained?_text_append slot behind)]
  rfl

theorem simplify_append_of_fresh {front : List Char} (fresh : '\x7b' ∉ front)
    (behind : List Char) : simplify (front ++ behind) = front ++ simplify behind := by
  rw [simplify, Text.pieces_append_of_notMem behind constrained?_of_ne fresh,
    Text.spell_map_char_append]
  rfl

theorem ne_of_notMem_marks {c mark : Char} (plain : c ∉ marks) (isMark : mark ∈ marks) :
    mark ∉ [c] := by
  rw [List.mem_singleton]
  rintro rfl
  exact plain isMark

theorem simplify_chars (template : Template) :
    simplify template.chars = template.write controllerToken actionToken := by
  induction template with
  | nil => rfl
  | cons part template ih =>
    have step : simplify (part.text ++ Template.chars template) =
        part.write controllerToken actionToken ++ simplify (Template.chars template) := by
      cases part with
      | literal c plain => exact simplify_append_of_fresh (ne_of_notMem_marks plain (by decide)) _
      | controller => exact simplify_append_of_fresh (by decide) _
      | action => exact simplify_append_of_fresh (by decide) _
      | slot slot => exact simplify_slot_append slot _
    rw [ih] at step
    exact step

/-! ### Replacing tokens -/

theorem bracket_notMem_plain {placeholder : Placeholder} (proper : placeholder.IsProper) :
    '[' ∉ placeholder.plain := by
  have noWord : '[' ∉ placeholder.name.toList := by
    intro among
    have word := proper.words '[' among
    revert word
    decide
  have noEnd : '[' ∉ placeholder.ending := by
    unfold Placeholder.ending
    split <;> decide
  rw [Placeholder.plain_eq, List.mem_cons, List.mem_append, not_or, not_or]
  exact ⟨by decide, noWord, noEnd⟩

theorem replaceAll_controllerToken (template : Template) :
    Text.replaceAll controllerToken controller (template.write controllerToken actionToken) =
      template.write controller actionToken := by
  refine Text.replaceAll_flatMap ?_
  rintro (⟨c, plain⟩ | _ | _ | slot) - behind
  · exact Text.replaceAll_append_of_notMem (ne_of_notMem_marks plain (by decide)) behind
  · exact Text.replaceAll_pattern_append behind
  · -- Both tokens begin with a bracket, and differ behind it.
    have fresh : '[' ∉ "action]".toList := by decide
    exact congrArg ('[' :: ·) (Text.replaceAll_append_of_notMem fresh behind)
  · exact Text.replaceAll_append_of_notMem (bracket_notMem_plain slot.proper) behind

theorem replaceAll_actionToken (template : Template) (plainController : '[' ∉ controller) :
    Text.replaceAll actionToken action (template.write controller actionToken) =
      template.write controller action := by
  refine Text.replaceAll_flatMap ?_
  rintro (⟨c, plain⟩ | _ | _ | slot) - behind
  · exact Text.replaceAll_append_of_notMem (ne_of_notMem_marks plain (by decide)) behind
  · exact Text.replaceAll_append_of_notMem plainController behind
  · exact Text.replaceAll_pattern_append behind
  · exact Text.replaceAll_append_of_notMem (bracket_notMem_plain slot.proper) behind

/-! ### Joining the prefix and the fragment -/

theorem text_ne_nil (part : Part) : part.text ≠ [] := by
  cases part <;> exact List.cons_ne_nil _ _

theorem text_of_isSlash (isSlash : part.isSlash = true) : part.text = ['/'] := by
  cases part with
  | literal c _ => exact congrArg (fun c => [c]) (eq_of_beq isSlash)
  | _ => cases isSlash

theorem exists_last_of_not_isSlash (other : part.isSlash = false) :
    ∃ front c, part.text = front ++ [c] ∧ (c == '/') = false := by
  cases part with
  | literal c _ => exact ⟨[], c, rfl, other⟩
  | controller => exact ⟨"[controller".toList, ']', rfl, rfl⟩
  | action => exact ⟨"[action".toList, ']', rfl, rfl⟩
  | slot slot =>
    have closed : ∃ front, slot.placeholder.ending = front ++ ['\x7d'] := by
      unfold Placeholder.ending
      split
      · exact ⟨['?'], rfl⟩
      · exact ⟨[], rfl⟩
    rcases closed with ⟨front, closed⟩
    refine ⟨'\x7b' :: (List.replicate slot.stars '*' ++
      (slot.placeholder.name.toList ++ (slot.limits ++ front))), '\x7d', ?_, rfl⟩
    simp [Part.text, Slot.text, closed]

theorem dropSlashes_chars (template : Template) :
    Route.dropSlashes template.chars = Template.chars template.dropSlashes := by
  have sameDrop (cs : List Char) : Route.dropSlashes cs = cs.rdropWhile (· == '/') := rfl
  rw [sameDrop]
  induction template using List.reverseRecOn with
  | nil => rfl
  | append_singleton template part ih =>
    have whole : Template.chars (template ++ [part]) = Template.chars template ++ part.text := by
      simp [Template.chars]
    rw [whole, Template.dropSlashes]
    cases isSlash : part.isSlash with
    | true =>
      rw [text_of_isSlash isSlash, List.rdropWhile_concat_pos _ _ _ rfl,
        List.rdropWhile_concat_pos _ _ _ isSlash]
      exact ih
    | false =>
      rcases exists_last_of_not_isSlash isSlash with ⟨front, c, split, other⟩
      rw [List.rdropWhile_concat_neg _ _ _ (by simp [isSlash]), whole, split, ← List.append_assoc,
        List.rdropWhile_concat_neg _ _ _ (by simp [other])]

theorem dropBeginning?_slash_chars (template : Template) :
    Text.dropBeginning? ['/'] template.chars = template.afterSlash?.map Template.chars := by
  match template with
  | [] | .controller :: _ | .action :: _ | .slot _ :: _ => rfl
  | .literal c _ :: others =>
    by_cases isSlash : c = '/'
    · subst isSlash
      rfl
    · have same : (c == '/') = false := beq_false_of_ne isSlash
      have converse : ('/' == c) = false := beq_false_of_ne (Ne.symm isSlash)
      simp [Template.chars, Part.text, Part.write, Text.dropBeginning?, Template.afterSlash?,
        Part.isSlash, same, converse]

theorem absolute?_chars (template : Template) :
    Route.absolute? template.chars = template.absolute?.map Template.chars := by
  rw [Route.absolute?]
  unfold Template.absolute?
  split
  · next others =>
    have behindTilde : Text.dropBeginning? ['/'] (Template.chars (.literal '~' ‹_› :: others)) =
        none := rfl
    rw [behindTilde, Option.or_none]
    exact dropBeginning?_slash_chars others
  · next noTilde =>
    have noMark : Text.dropBeginning? ['~', '/'] template.chars = none := by
      match template with
      | [] | .controller :: _ | .action :: _ | .slot _ :: _ => rfl
      | .literal c plain :: others =>
        have other : ¬('~' == c) = true := by
          intro isTilde
          cases eq_of_beq isTilde
          exact noTilde plain others rfl
        exact if_neg other
    rw [noMark, Option.none_or]
    exact dropBeginning?_slash_chars template

theorem chars_append (template others : Template) :
    Template.chars (template ++ others) = template.chars ++ others.chars :=
  List.flatMap_append

theorem join_chars (stem : Option Template) (fragment : Template) :
    Route.join (stem.map Template.text) fragment.chars = (Template.join stem fragment).chars := by
  have stemChars : ((stem.map Template.text).getD defaultStem).toList =
      Template.chars (stem.getD [.controller]) := by
    cases stem with
    | none => rfl
    | some stem => exact String.toList_ofList
  rw [Route.join, absolute?_chars, Template.join]
  cases fragment.absolute? with
  | some route => rfl
  | none =>
    simp only [Option.map_none, stemChars, dropSlashes_chars]
    cases (stem.getD [.controller]).dropSlashes with
    | nil => rfl
    | cons part kept =>
      have given : (Template.chars (part :: kept)).isEmpty = false := by
        rw [List.isEmpty_eq_false_iff]
        simp [Template.chars, text_ne_nil]
      simp only [given, Bool.false_eq_true, if_false]
      rw [chars_append]
      rfl

/-! ### Results -/

theorem IsPlainName.notMem {name : String} {mark : Char} (plain : IsPlainName name)
    (isMark : mark ∈ marks) : mark ∉ name.toList :=
  fun among => plain mark among isMark

theorem normalize_of_templates (stem : Option Template) (fragment : Template)
    {controller : String} (plainController : IsPlainName controller) (action : String) :
    normalize (stem.map Template.text) fragment.text controller action =
      (Template.join stem fragment).route controller action := by
  have replaced : Text.replaceAll actionToken action.toList
      ((Template.join stem fragment).write controller.toList actionToken) =
        (Template.join stem fragment).write controller.toList action.toList :=
    replaceAll_actionToken _ (plainController.notMem (by decide))
  rw [← replaceAll_controllerToken, ← simplify_chars, ← join_chars] at replaced
  have chars : fragment.text.toList = fragment.chars := String.toList_ofList
  rw [normalize, chars]
  exact congrArg String.ofList replaced

theorem matches?_append_of_fresh {front : List Char} (fresh : '\x7b' ∉ front)
    (behind : List Char) :
    Text.matches? (Text.pieces plain? (front ++ behind)) =
      Text.matches? (Text.pieces plain? behind) := by
  rw [Text.pieces_append_of_notMem behind plain?_of_ne fresh, Text.matches?_map_char_append]

/-- The placeholders of a route are those of its template. -/
theorem placeholders_route {controller action : String} (plainController : IsPlainName controller)
    (plainAction : IsPlainName action) (template : Template) :
    placeholders (template.route controller action) = template.placeholders := by
  rw [placeholders, Template.route, String.toList_ofList]
  induction template with
  | nil => rfl
  | cons part template ih =>
    cases part with
    | literal c plain =>
      exact (matches?_append_of_fresh (ne_of_notMem_marks plain (by decide)) _).trans ih
    | controller =>
      exact (matches?_append_of_fresh (plainController.notMem (by decide)) _).trans ih
    | action => exact (matches?_append_of_fresh (plainAction.notMem (by decide)) _).trans ih
    | slot slot =>
      have found := pieces_plain_append slot.proper
        (Template.write controller.toList action.toList template)
      exact (congrArg Text.matches? found).trans (congrArg (slot.placeholder :: ·) ih)

end ClientGen.Route

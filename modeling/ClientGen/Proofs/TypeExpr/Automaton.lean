import ClientGen.Proofs.TypeExpr.Tokens
import ClientGen.TypeExpr.Parse

/-!
# Runs of the automaton

What the automaton that reads type expressions can do is said once: one rule for each token that
fits a situation. A text is a type expression if its tokens lead from the start to a situation in
which a type is complete and no generic type is open.
-/

namespace ClientGen.TypeExpr

/-- Whether a type is complete in a situation. -/
inductive Situation.Holds : Situation → TypeExpr → Prop
  | word (word : String) : Holds (.behindWord word) (ofName word)
  | type (type : TypeExpr) : Holds (.behindType type) type

theorem Situation.Holds.unique {situation : Situation} {type other : TypeExpr}
    (first : situation.Holds type) (second : situation.Holds other) : type = other := by
  cases first <;> cases second <;> rfl

namespace Reading

/-- What a token does to the automaton. -/
inductive Steps : Reading → Token → Reading → Prop
  | dollar {stack} : Steps ⟨stack, .beforeType⟩ (.mark '$') ⟨stack, .beforeParameter⟩
  | void {stack} : Steps ⟨stack, .beforeType⟩ (.word "void") ⟨stack, .behindType .void⟩
  | word {stack} {word : String} (other : word ≠ "void") :
    Steps ⟨stack, .beforeType⟩ (.word word) ⟨stack, .behindWord word⟩
  | parameter {stack} {word : String} :
    Steps ⟨stack, .beforeParameter⟩ (.word word) ⟨stack, .behindType (.parameter word)⟩
  | opening {stack} {word : String} : Steps ⟨stack, .behindWord word⟩ (.mark '<')
      ⟨⟨expandKeyword word, []⟩ :: stack, .beforeType⟩
  | bracket {stack situation type} (holds : situation.Holds type) :
    Steps ⟨stack, situation⟩ (.mark '[') ⟨stack, .insideBrackets type⟩
  | closingBracket {stack element} :
    Steps ⟨stack, .insideBrackets element⟩ (.mark ']') ⟨stack, .behindType (.array element)⟩
  | question {stack situation type} (holds : situation.Holds type) :
    Steps ⟨stack, situation⟩ (.mark '?') ⟨stack, .behindType (nullable type)⟩
  | comma {top stack situation type} (holds : situation.Holds type) :
    Steps ⟨top :: stack, situation⟩ (.mark ',')
      ⟨⟨top.name, type :: top.finished⟩ :: stack, .beforeType⟩
  | closing {top stack situation type} (holds : situation.Holds type) :
    Steps ⟨top :: stack, situation⟩ (.mark '>')
      ⟨stack, .behindType (apply top.name (type :: top.finished).reverse)⟩

inductive Runs : Reading → List Token → Reading → Prop
  | nothing (reading : Reading) : Runs reading [] reading
  | token {reading next last token tokens} (step : Steps reading token next)
    (others : Runs next tokens last) : Runs reading (token :: tokens) last

variable {reading next last : Reading} {token : Token} {tokens others : List Token}
  {type other : TypeExpr} {situation : Situation} {stack : List OpenType}

theorem steps_continueType (holds : situation.Holds type)
    (taken : continueType type stack token = .ok next) :
    Steps ⟨stack, situation⟩ token next := by
  unfold continueType at taken
  split at taken
  · cases taken
    exact .bracket holds
  · cases taken
    exact .question holds
  · cases taken
    exact .comma holds
  · cases taken
    exact .closing holds
  · cases taken

theorem steps_of_take (taken : reading.take token = .ok next) : Steps reading token next := by
  rcases reading with ⟨stack, situation⟩
  unfold take at taken
  split at taken
  · next isBefore =>
    cases taken
    cases isBefore
    exact .dollar
  · next word isBefore =>
    cases isBefore
    split at taken
    · next isVoid =>
      cases taken
      rw [isVoid]
      exact .void
    · next other =>
      cases taken
      exact .word other
  · cases taken
  · next isBefore =>
    cases isBefore
    cases taken
    exact .parameter
  · cases taken
  · next isBehind =>
    cases isBehind
    cases taken
    exact .opening
  · next word isBehind _ =>
    cases isBehind
    exact steps_continueType (.word word) taken
  · next type isBehind =>
    cases isBehind
    exact steps_continueType (.type type) taken
  · next isInside =>
    cases isInside
    cases taken
    exact .closingBracket
  · cases taken

theorem take_of_steps (step : Steps reading token next) : reading.take token = .ok next := by
  cases step with
  | dollar => rfl
  | void => rfl
  | word other => simp [take, other]
  | parameter => rfl
  | opening => rfl
  | bracket holds => cases holds <;> simp [take, continueType]
  | closingBracket => rfl
  | question holds => cases holds <;> simp [take, continueType]
  | comma holds => cases holds <;> simp [take, continueType]
  | closing holds => cases holds <;> simp [take, continueType]

theorem Steps.unique (first : Steps reading token next) (second : Steps reading token last) :
    next = last := by
  have same := take_of_steps first
  rw [take_of_steps second] at same
  exact (Except.ok.inj same).symm

theorem finish_eq_ok_iff : reading.finish = .ok type ↔
    reading.stack = [] ∧ reading.situation.Holds type := by
  rcases reading with ⟨stack, situation⟩
  constructor
  · intro finished
    unfold finish at finished
    split at finished
    · cases finished
    · cases finished
    · cases finished
    · next word same =>
      cases same
      cases finished
      exact ⟨rfl, .word word⟩
    · next same =>
      cases same
      cases finished
      exact ⟨rfl, .type type⟩
    · cases finished
  · rintro ⟨rfl, holds⟩
    cases holds <;> rfl

namespace Runs

theorem single (step : Steps reading token next) : Runs reading [token] next :=
  .token step (.nothing next)

theorem append (first : Runs reading tokens next) (second : Runs next others last) :
    Runs reading (tokens ++ others) last := by
  induction first with
  | nothing => exact second
  | token step _ ih => exact .token step (ih second)

/-- Behind a token that can be taken, a run goes on. -/
theorem of_step (step : Steps reading token next) (runs : Runs reading (token :: tokens) last) :
    Runs next tokens last := by
  cases runs with
  | token other others =>
    rw [step.unique other]
    exact others

end Runs

/-- A complaint apart, the automaton answers with the type that a run leads to. -/
theorem takeAll_eq_ok_iff {ending : Nat} {placed : List Placed} :
    reading.takeAll ending placed = .ok type ↔
      ∃ last, Runs reading (placed.map (·.token)) last ∧ last.finish = .ok type := by
  induction placed generalizing reading with
  | nil =>
    constructor
    · intro taken
      rw [takeAll] at taken
      cases finished : reading.finish with
      | error expectation =>
        rw [finished] at taken
        cases taken
      | ok other =>
        rw [finished] at taken
        cases taken
        exact ⟨reading, .nothing reading, finished⟩
    · rintro ⟨last, runs, finished⟩
      cases runs
      rw [takeAll, finished]
      rfl
  | cons first placed ih =>
    rw [takeAll]
    constructor
    · intro taken
      cases step : reading.take first.token with
      | error expectation =>
        rw [step] at taken
        cases taken
      | ok next =>
        rw [step] at taken
        rcases ih.mp taken with ⟨last, runs, finished⟩
        exact ⟨last, .token (steps_of_take step) runs, finished⟩
    · rintro ⟨last, runs, finished⟩
      cases runs with
      | token step others =>
        rw [take_of_steps step]
        exact ih.mpr ⟨last, others, finished⟩

end Reading

/-- A text is read as a type if its tokens lead the automaton to that type. -/
theorem parse_eq_ok_iff {text : String} {type : TypeExpr} :
    parse text = .ok type ↔
      ∃ situation, Reading.Runs .start (lex text.toList) ⟨[], situation⟩ ∧
        situation.Holds type := by
  have outcome : parse text = .ok type ↔
      Reading.start.takeAll text.toList.length (tokens text.toList) = .ok type := by
    rw [parse]
    cases Reading.start.takeAll text.toList.length (tokens text.toList) <;> simp [Except.mapError]
  rw [outcome, Reading.takeAll_eq_ok_iff]
  constructor
  · rintro ⟨⟨stack, situation⟩, runs, finished⟩
    rcases Reading.finish_eq_ok_iff.mp finished with ⟨rfl, holds⟩
    exact ⟨situation, runs, holds⟩
  · rintro ⟨situation, runs, holds⟩
    exact ⟨_, runs, Reading.finish_eq_ok_iff.mpr ⟨rfl, holds⟩⟩

end ClientGen.TypeExpr

import ClientGen.Proofs.TypeExpr.Automaton
import ClientGen.Proofs.TypeExpr.Grammar

/-!
# What is parsed

The tokens of a written type lead the automaton through that type, whichever generic types are open
around it. The other way round, whatever tokens the automaton has taken so far, they are those of
the generic types that are still open, with their finished arguments, and of what was begun since.
So the texts that are read as types are those that spell one, and a text is read as what it denotes.
-/

namespace ClientGen.TypeExpr

/-! ### Marked names -/

theorem mem_keywords {word full : String} (found : keywords.lookup word = some full) :
    (word, full) ∈ keywords := by
  rcases List.lookup_eq_some_iff.mp found with ⟨before, after, whole, -⟩
  rw [whole]
  exact List.mem_append_right _ List.mem_cons_self

/-- No keyword has a mark, and no name that stands for one. -/
theorem mem_expandKeyword_iff {word : String} :
    '\x60' ∈ (expandKeyword word).toList ↔ '\x60' ∈ word.toList := by
  have unmarked : ∀ entry ∈ keywords, '\x60' ∉ entry.1.toList ∧ '\x60' ∉ entry.2.toList := by
    decide
  rw [expandKeyword]
  cases found : keywords.lookup word with
  | none => rfl
  | some full =>
    have both := unmarked _ (mem_keywords found)
    exact ⟨fun marked => absurd marked both.2, fun marked => absurd marked both.1⟩

theorem apply_expandKeyword (word : String) (arg : TypeExpr) (args : List TypeExpr) :
    apply (expandKeyword word) (arg :: args) =
      .named (markedName word (args.length + 1)) (arg :: args) := by
  rw [apply, markedName]
  by_cases marked : '\x60' ∈ word.toList
  · have isMarked : (expandKeyword word).toList.contains '\x60' = true :=
      List.contains_iff_mem.mpr (mem_expandKeyword_iff.mpr marked)
    rw [if_pos (by rw [isMarked]; rfl), if_pos marked]
  · have isUnmarked : (expandKeyword word).toList.contains '\x60' = false := by
      rw [← Bool.not_eq_true, List.contains_iff_mem, mem_expandKeyword_iff]
      exact marked
    rw [if_neg (by rw [isUnmarked]; exact Bool.false_ne_true), if_neg marked, List.length_cons]

/-! ### From written types to runs -/

namespace Reading

theorem exists_runs_endings (stack : List OpenType) (endings : List Ending) {situation : Situation}
    {type : TypeExpr} (holds : situation.Holds type) :
    ∃ later, Runs ⟨stack, situation⟩ (endings.flatMap Ending.tokens) ⟨stack, later⟩ ∧
      later.Holds (endings.foldl Ending.applied type) := by
  induction endings generalizing situation type with
  | nil => exact ⟨situation, .nothing _, holds⟩
  | cons ending endings ih =>
    rcases ih (.type (Ending.applied type ending)) with ⟨later, runs, laterHolds⟩
    refine ⟨later, ?_, laterHolds⟩
    rw [List.flatMap_cons]
    cases ending with
    | brackets => exact .token (.bracket holds) (.token .closingBracket runs)
    | question => exact .token (.question holds) runs

end Reading

open Reading

mutual

theorem Written.exists_runs : ∀ (written : Written) (stack : List OpenType),
    ∃ situation, Runs ⟨stack, .beforeType⟩ written.tokens ⟨stack, situation⟩ ∧
      situation.Holds written.meaning
  | ⟨head, endings⟩, stack => by
    rcases Head.exists_runs head stack with ⟨situation, runs, holds⟩
    rcases exists_runs_endings stack endings holds with ⟨later, others, laterHolds⟩
    rw [Written.tokens, Written.meaning]
    exact ⟨later, runs.append others, laterHolds⟩

theorem Head.exists_runs : ∀ (head : Head) (stack : List OpenType),
    ∃ situation, Runs ⟨stack, .beforeType⟩ head.tokens ⟨stack, situation⟩ ∧
      situation.Holds head.meaning
  | .parameter name, stack =>
    ⟨_, .token .dollar (.single .parameter), .type _⟩
  | .void, stack => ⟨_, .single .void, .type _⟩
  | .plain name, stack => ⟨_, .single (.word name.notVoid), .word _⟩
  | .generic name first others, stack => by
    have opening : Runs ⟨stack, .beforeType⟩ [.word name.text, .mark '<']
        ⟨⟨expandKeyword name.text, []⟩ :: stack, .beforeType⟩ :=
      .token (.word name.notVoid) (.single .opening)
    rcases Written.exists_runs first (⟨expandKeyword name.text, []⟩ :: stack) with
      ⟨situation, inner, holds⟩
    rcases exists_runs_others others (expandKeyword name.text) [] stack holds with
      ⟨later, last, finished, more, laterHolds, arguments⟩
    have closing : Runs ⟨⟨expandKeyword name.text, finished⟩ :: stack, later⟩ [.mark '>']
        ⟨stack, .behindType (apply (expandKeyword name.text) (last :: finished).reverse)⟩ :=
      .single (.closing laterHolds)
    refine ⟨_, opening.append (inner.append (more.append closing)), ?_⟩
    rw [arguments, List.reverse_nil, List.nil_append, apply_expandKeyword, Head.meaning,
      meanings_eq_map, List.length_map]
    exact .type _

/-- Behind a first argument the others follow, while the finished ones are kept. -/
theorem exists_runs_others : ∀ (others : List Written) (name : String) (finished : List TypeExpr)
    (stack : List OpenType) {situation : Situation} {type : TypeExpr}, situation.Holds type →
    ∃ later last kept, Runs ⟨⟨name, finished⟩ :: stack, situation⟩ (othersTokens others)
        ⟨⟨name, kept⟩ :: stack, later⟩ ∧ later.Holds last ∧
      (last :: kept).reverse = finished.reverse ++ type :: meanings others
  | [], name, finished, stack, situation, type, holds =>
    ⟨situation, type, finished, .nothing _, holds, by simp [meanings]⟩
  | written :: others, name, finished, stack, situation, type, holds => by
    have comma : Steps ⟨⟨name, finished⟩ :: stack, situation⟩ (.mark ',')
        ⟨⟨name, type :: finished⟩ :: stack, .beforeType⟩ := .comma holds
    rcases Written.exists_runs written (⟨name, type :: finished⟩ :: stack) with
      ⟨middle, inner, middleHolds⟩
    rcases exists_runs_others others name (type :: finished) stack middleHolds with
      ⟨later, last, kept, more, laterHolds, arguments⟩
    refine ⟨later, last, kept, .token comma (inner.append more), laterHolds, ?_⟩
    rw [arguments, List.reverse_cons, List.append_assoc, List.singleton_append, meanings]

end

/-! ### From runs to written types -/

def Written.followedBy (ending : Ending) : Written → Written
  | ⟨head, endings⟩ => ⟨head, endings ++ [ending]⟩

@[simp]
theorem Written.tokens_followedBy (written : Written) (ending : Ending) :
    (written.followedBy ending).tokens = written.tokens ++ ending.tokens := by
  rcases written with ⟨head, endings⟩
  simp [followedBy, tokens]

@[simp]
theorem Written.meaning_followedBy (written : Written) (ending : Ending) :
    (written.followedBy ending).meaning = ending.applied written.meaning := by
  rcases written with ⟨head, endings⟩
  simp [followedBy, meaning]

/-- Arguments that end with commas and one that does not. -/
theorem exists_separated (finished : List Written) (written : Written) :
    ∃ first others, finished ++ [written] = first :: others ∧
      (finished.flatMap fun written => written.tokens ++ [.mark ',']) ++ written.tokens =
        first.tokens ++ othersTokens others := by
  induction finished with
  | nil => exact ⟨written, [], rfl, by simp [othersTokens]⟩
  | cons head finished ih =>
    rcases ih with ⟨first, others, whole, spelled⟩
    refine ⟨head, first :: others, by rw [List.cons_append, whole], ?_⟩
    rw [List.flatMap_cons, List.append_assoc, spelled, othersTokens, List.append_assoc]
    rfl

/-- Whether open generic types come from some tokens. -/
inductive Frames : List OpenType → List Token → Prop
  | nil : Frames [] []
  | cons {stack ts} (name : TypeName) (finished : List Written) (frames : Frames stack ts) :
    Frames (⟨expandKeyword name.text, (finished.map Written.meaning).reverse⟩ :: stack)
      (ts ++ .word name.text :: .mark '<' ::
        finished.flatMap fun written => written.tokens ++ [.mark ','])

/-- Whether a situation comes from the tokens since the last argument began. -/
inductive Begun : Situation → List Token → Prop
  | beforeType : Begun .beforeType []
  | beforeParameter : Begun .beforeParameter [.mark '$']
  | behindWord (name : TypeName) : Begun (.behindWord name.text) [.word name.text]
  | behindType (written : Written) : Begun (.behindType written.meaning) written.tokens
  | insideBrackets (written : Written) :
    Begun (.insideBrackets written.meaning) (written.tokens ++ [.mark '['])

/-- Whether the automaton comes from some tokens. -/
def Drafted (reading : Reading) (ts : List Token) : Prop :=
  ∃ before behind, ts = before ++ behind ∧ Frames reading.stack before ∧
    Begun reading.situation behind

variable {reading next : Reading} {token : Token} {ts others : List Token}

theorem Begun.exists_written {situation : Situation} {type : TypeExpr}
    (begun : Begun situation ts) (holds : situation.Holds type) :
    ∃ written : Written, written.tokens = ts ∧ written.meaning = type := by
  cases holds with
  | word word =>
    cases begun with
    | behindWord name => exact ⟨⟨.plain name, []⟩, rfl, rfl⟩
  | type type =>
    cases begun with
    | behindType written => exact ⟨written, rfl, rfl⟩

/-- A generic type is complete when it is closed. -/
theorem Begun.generic (name : TypeName) (finished : List Written) (written : Written) :
    Begun (.behindType (apply (expandKeyword name.text)
        (written.meaning :: (finished.map Written.meaning).reverse).reverse))
      (.word name.text :: .mark '<' :: ((finished.flatMap fun written =>
        written.tokens ++ [.mark ',']) ++ (written.tokens ++ [.mark '>']))) := by
  rcases exists_separated finished written with ⟨first, others, whole, spelled⟩
  have arguments : (written.meaning :: (finished.map Written.meaning).reverse).reverse =
      first.meaning :: meanings others := by
    rw [List.reverse_cons, List.reverse_reverse, meanings_eq_map, ← List.map_cons, ← whole,
      List.map_append]
    rfl
  have complete := Begun.behindType ⟨.generic name first others, []⟩
  have tokens : (Written.mk (.generic name first others) []).tokens = .word name.text ::
      .mark '<' :: (first.tokens ++ (othersTokens others ++ [.mark '>'])) := by
    rw [Written.tokens, Head.tokens]
    simp
  rw [← List.append_assoc, spelled, List.append_assoc, arguments, apply_expandKeyword,
    meanings_eq_map, List.length_map, ← meanings_eq_map, ← tokens]
  exact complete

theorem Drafted.step (drafted : Drafted reading ts) (step : Reading.Steps reading token next)
    (legal : token.Legal) : Drafted next (ts ++ [token]) := by
  rcases drafted with ⟨before, behind, rfl, frames, begun⟩
  cases step with
  | dollar =>
    cases begun
    exact ⟨before, [.mark '$'], by simp, frames, .beforeParameter⟩
  | void =>
    cases begun
    exact ⟨before, [.word "void"], by simp, frames, .behindType ⟨.void, []⟩⟩
  | @word _ word other =>
    cases begun
    exact ⟨before, [.word word], by simp, frames, .behindWord ⟨⟨word, legal⟩, other⟩⟩
  | @parameter _ word =>
    cases begun
    exact ⟨before, [.mark '$', .word word], by simp, frames,
      .behindType ⟨.parameter ⟨word, legal⟩, []⟩⟩
  | opening =>
    cases begun with
    | behindWord name => exact ⟨_, [], by simp, .cons name [] frames, .beforeType⟩
  | bracket holds =>
    rcases begun.exists_written holds with ⟨written, rfl, rfl⟩
    exact ⟨before, _, List.append_assoc .., frames, .insideBrackets written⟩
  | closingBracket =>
    cases begun with
    | insideBrackets written =>
      have later := Begun.behindType (written.followedBy .brackets)
      rw [Written.meaning_followedBy, Written.tokens_followedBy] at later
      exact ⟨before, _, by simp [Ending.tokens], frames, later⟩
  | question holds =>
    rcases begun.exists_written holds with ⟨written, rfl, rfl⟩
    have later := Begun.behindType (written.followedBy .question)
    rw [Written.meaning_followedBy, Written.tokens_followedBy] at later
    exact ⟨before, _, List.append_assoc .., frames, later⟩
  | comma holds =>
    rcases begun.exists_written holds with ⟨written, rfl, rfl⟩
    cases frames with
    | cons name finished frames =>
      -- What was begun is complete, and joins the finished arguments.
      have later := Frames.cons name (finished ++ [written]) frames
      rw [List.map_append, List.reverse_append] at later
      exact ⟨_, [], by simp, later, .beforeType⟩
  | closing holds =>
    rcases begun.exists_written holds with ⟨written, rfl, rfl⟩
    cases frames with
    | @cons stack outer name finished frames =>
      exact ⟨outer, _, by simp, frames, .generic name finished written⟩

theorem Drafted.runs (drafted : Drafted reading ts) (runs : Reading.Runs reading others next)
    (legal : ∀ token ∈ others, token.Legal) : Drafted next (ts ++ others) := by
  induction runs generalizing ts with
  | nothing =>
    rw [List.append_nil]
    exact drafted
  | @token _ _ _ token tokens step _ ih =>
    rw [← List.singleton_append, ← List.append_assoc]
    refine ih (drafted.step step (legal token List.mem_cons_self)) ?_
    intro other among
    exact legal other (List.mem_cons_of_mem _ among)

/-! ### Results -/

theorem exists_written_of_runs {text : List Char} {situation : Situation} {type : TypeExpr}
    (runs : Reading.Runs .start (lex text) ⟨[], situation⟩) (holds : situation.Holds type) :
    ∃ written : Written, lex text = written.tokens ∧ written.meaning = type := by
  have start : Drafted .start [] := ⟨[], [], rfl, .nil, .beforeType⟩
  have legal : ∀ token ∈ lex text, token.Legal := fun _ among => (legal_of_mem_lex among).1
  rcases start.runs runs legal with ⟨before, behind, whole, frames, begun⟩
  cases frames
  rcases begun.exists_written holds with ⟨written, rfl, rfl⟩
  exact ⟨written, whole, rfl⟩

theorem parse_iff_written {text : String} {type : TypeExpr} : parse text = .ok type ↔
    ∃ written : Written, lex text.toList = written.tokens ∧ written.meaning = type := by
  rw [parse_eq_ok_iff]
  constructor
  · rintro ⟨situation, runs, holds⟩
    exact exists_written_of_runs runs holds
  · rintro ⟨written, lexed, rfl⟩
    rcases Written.exists_runs written [] with ⟨situation, runs, holds⟩
    rw [← lexed] at runs
    exact ⟨situation, runs, holds⟩

/-- The texts that are read as types are those that the grammar allows, and a text is read as the
type that it denotes. It spells one type only, but for its blanks. -/
theorem parse_iff_expression (text : String) :
    (∀ type, parse text = .ok type ↔
      ∃ written, Expression written text.toList ∧ written.meaning = type) ∧
      ∀ written other, Expression written text.toList → Expression other text.toList →
        written = other := by
  constructor
  · intro type
    simp only [expression_iff]
    exact parse_iff_written
  · intro written other first second
    exact first.unique second

/-- A list of numbers that may be missing, as it is written with blanks. -/
def spacedList : Written :=
  ⟨.generic ⟨⟨"List", by decide +kernel⟩, by decide⟩
    ⟨.plain ⟨⟨"int", by decide +kernel⟩, by decide⟩, [.question]⟩ [], [.brackets]⟩

theorem parse_spacedList :
    Expression spacedList "List < int ?>[ ]".toList ∧
      parse "List < int ?>[ ]" = .ok (.array (.named "List\x601"
        [nullable (.named "System.Int32" [])])) ∧
      ∀ other, Expression other "List < int ?>[ ]".toList → other = spacedList := by
  have spelled : Expression spacedList "List < int ?>[ ]".toList := expression_iff.mpr rfl
  have both := parse_iff_expression "List < int ?>[ ]"
  refine ⟨spelled, (both.1 _).mpr ⟨spacedList, spelled, rfl⟩, ?_⟩
  intro other otherSpelled
  exact both.2 other spacedList otherSpelled spelled

end ClientGen.TypeExpr

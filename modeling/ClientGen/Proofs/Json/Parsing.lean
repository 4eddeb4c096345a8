import ClientGen.Json.Read
import ClientGen.Proofs.Json.Writing

/-!
# Sources of written trees

The tokens of a tree are put together to a source again, whatever containers are open around it. So
a written tree is read as the source that says the same, without flaws and with nothing behind it.
A float that is read back is spelled as a numeral, since nothing else is read as a float.
-/

namespace ClientGen.Json

open Data

mutual

/-- What a tree is read as. -/
def sourceOf : Tree → Source
  | .null => .null
  | .bool value => .bool value
  | .int value => .numeral (intNumeral value)
  | .real value => .numeral (realNumeral value)
  | .text value => .quoted (.ofString value)
  | .list items => .list (sourcesOf items) none
  | .record fields => .record (membersOf fields) none
  | .variant name body => .record [(.ofString name, sourceOf body)] none

/-- What the items of a list are read as. -/
def sourcesOf : List Tree → List Source
  | [] => []
  | item :: items => sourceOf item :: sourcesOf items

/-- What the fields of a record are read as. -/
def membersOf : List (String × Tree) → List (Quoted × Source)
  | [] => []
  | (name, value) :: fields => (.ofString name, sourceOf value) :: membersOf fields

end

/-! ### Runs -/

/-- The state behind some tokens, if they all fit. -/
def Progress.run (progress : Progress) (tokens : List Token) : Option Progress :=
  tokens.foldlM Progress.take? progress

theorem Progress.run_append (progress : Progress) (tokens others : List Token) :
    progress.run (tokens ++ others) = (progress.run tokens).bind fun next => next.run others :=
  List.foldlM_append

theorem Progress.run_cons (progress : Progress) (token : Token) (tokens : List Token) :
    progress.run (token :: tokens) = (progress.take? token).bind fun next => next.run tokens :=
  List.foldlM_cons

theorem Progress.takeAll_cons {progress next : Progress} {token : Token}
    (taken : progress.take? token = some next) (others : List Token) :
    progress.takeAll (token :: others) = next.takeAll others := by
  rcases progress with ⟨frames, need⟩
  cases need with
  | separator value =>
    cases frames with
    | nil => simp [take?, afterValue] at taken
    | cons frame frames => simp only [takeAll, taken]
  | _ => simp only [takeAll, taken]

theorem Progress.takeAll_append {progress next : Progress} {tokens : List Token}
    (reached : progress.run tokens = some next) (others : List Token) :
    progress.takeAll (tokens ++ others) = next.takeAll others := by
  induction tokens generalizing progress with
  | nil =>
    cases reached
    rfl
  | cons token tokens ih =>
    rw [run_cons, Option.bind_eq_some_iff] at reached
    rcases reached with ⟨between, taken, reached⟩
    rw [List.cons_append, takeAll_cons taken, ih reached]

/-- A list that is not empty begins like any value. -/
theorem run_valueOrEnd (frames : List Frame) (tree : Tree) (others : List Token) :
    Progress.run ⟨frames, .valueOrEnd⟩ (tokensOf tree ++ others) =
      Progress.run ⟨frames, .value⟩ (tokensOf tree ++ others) := by
  cases frames with
  | nil => cases tree <;> rfl
  | cons frame frames => cases frame <;> cases tree <;> rfl

theorem run_valueOrEnd_of_items (frames : List Frame) {items : List Tree} (nonempty : items ≠ [])
    (others : List Token) :
    Progress.run ⟨frames, .valueOrEnd⟩ (tokensOfItems items ++ others) =
      Progress.run ⟨frames, .value⟩ (tokensOfItems items ++ others) := by
  cases items with
  | nil => exact absurd rfl nonempty
  | cons item items =>
    cases items with
    | nil => exact run_valueOrEnd frames item others
    | cons next items =>
      rw [tokensOfItems_cons, List.append_assoc]
      exact run_valueOrEnd frames item _

theorem run_keyOrEnd (frames : List Frame) {fields : List (String × Tree)} (nonempty : fields ≠ [])
    (others : List Token) :
    Progress.run ⟨.record [] :: frames, .keyOrEnd⟩ (tokensOfFields fields ++ others) =
      Progress.run ⟨.record [] :: frames, .key⟩ (tokensOfFields fields ++ others) := by
  cases fields with
  | nil => exact absurd rfl nonempty
  | cons field fields => cases fields <;> rfl

theorem run_name (frames : List Frame) (members : List (Quoted × Source)) (name : Quoted)
    (others : List Token) :
    Progress.run ⟨.record members :: frames, .key⟩ (.quoted name :: .mark ':' :: others) =
      Progress.run ⟨.member members name :: frames, .value⟩ others :=
  rfl

mutual

theorem run_tokensOf :
    ∀ (tree : Tree) (frames : List Frame), Progress.run ⟨frames, .value⟩ (tokensOf tree) =
      some ⟨frames, .separator (sourceOf tree)⟩
  | .null, _ => rfl
  | .bool _, _ | .int _, _ | .real _, _ | .text _, _ => rfl
  | .list [], _ => rfl
  | .list (item :: items), frames => by
    have nonempty : item :: items ≠ [] := by simp
    have inside := run_tokensOfItems (item :: items) nonempty frames []
    rw [← run_valueOrEnd_of_items _ nonempty] at inside
    exact inside
  | .record [], _ => rfl
  | .record (field :: fields), frames => by
    have nonempty : field :: fields ≠ [] := by simp
    have inside := run_tokensOfFields (field :: fields) nonempty frames []
    rw [← run_keyOrEnd _ nonempty] at inside
    exact inside
  | .variant name body, frames => by
    have inside := run_tokensOf body (.member [] (.ofString name) :: frames)
    show Progress.run ⟨.member [] (.ofString name) :: frames, .value⟩
      (tokensOf body ++ [.mark '\x7d']) = _
    rw [Progress.run_append, inside]
    rfl

/-- The items that are left of a list, of which some were read before. -/
theorem run_tokensOfItems :
    ∀ items : List Tree, items ≠ [] → ∀ (frames : List Frame) (done : List Source),
      Progress.run ⟨.list done :: frames, .value⟩ (tokensOfItems items ++ [.mark ']']) =
        some ⟨frames, .separator (.list (done.reverse ++ sourcesOf items) none)⟩
  | [item], _, frames, done => by
    rw [tokensOfItems, Progress.run_append, run_tokensOf item]
    simp [Progress.run, Progress.take?, afterValue, sourcesOf]
  | item :: next :: items, _, frames, done => by
    have others := run_tokensOfItems (next :: items) (by simp) frames (sourceOf item :: done)
    rw [tokensOfItems_cons, List.append_assoc, Progress.run_append, run_tokensOf item,
      Option.bind_some, List.cons_append, Progress.run_cons]
    simp only [Progress.take?, afterValue, Option.bind_some, others]
    simp [sourcesOf]

/-- The fields that are left of a record, of which some were read before. -/
theorem run_tokensOfFields :
    ∀ fields : List (String × Tree), fields ≠ [] →
      ∀ (frames : List Frame) (done : List (Quoted × Source)),
        Progress.run ⟨.record done :: frames, .key⟩ (tokensOfFields fields ++ [.mark '\x7d']) =
          some ⟨frames, .separator (.record (done.reverse ++ membersOf fields) none)⟩
  | [(name, value)], _, frames, done => by
    have inside := run_tokensOf value (.member done (.ofString name) :: frames)
    rw [tokensOfFields, List.cons_append, List.cons_append, run_name, Progress.run_append, inside]
    simp [Progress.run, Progress.take?, afterValue, membersOf]
  | (name, value) :: next :: fields, _, frames, done => by
    have inside := run_tokensOf value (.member done (.ofString name) :: frames)
    have others := run_tokensOfFields (next :: fields) (by simp) frames
      ((.ofString name, sourceOf value) :: done)
    rw [tokensOfFields_cons, List.append_assoc, List.cons_append, List.cons_append, run_name,
      Progress.run_append, inside, Option.bind_some, List.cons_append, Progress.run_cons]
    simp only [Progress.take?, afterValue, Option.bind_some, others]
    simp [membersOf]

end

/-- A written tree is read as the source that says the same. -/
theorem parse_pretty {tree : Tree} (numerals : ∀ x ∈ tree.reals, IsNumeral x) :
    parse (pretty tree) = ⟨sourceOf tree, false⟩ := by
  have whole := Progress.takeAll_append (run_tokensOf tree []) []
  rw [List.append_nil] at whole
  rw [parse, tokens_pretty numerals, whole]
  rfl

/-! ### Floats that are read back -/

/-- Whether a source is a list or a record. -/
def IsContainer : Source → Prop
  | .list _ _ | .record _ _ => True
  | _ => False

/-- Whether a container is open, or one was the last thing to be closed. -/
def Progress.Enters : Progress → Prop
  | ⟨[], .separator value⟩ => IsContainer value
  | ⟨[], _⟩ => False
  | _ => True

theorem isContainer_closeFrames (flaw : Flaw) (frames : List Frame) (inner : Option Source)
    (enters : frames ≠ [] ∨ ∃ value, inner = some value ∧ IsContainer value) :
    IsContainer (closeFrames flaw inner frames) := by
  induction frames generalizing inner with
  | nil =>
    rcases enters with nonempty | ⟨value, rfl, container⟩
    · exact absurd rfl nonempty
    · exact container
  | cons frame frames ih =>
    cases frame with
    | list items => exact ih _ (.inr ⟨_, rfl, trivial⟩)
    | record members => exact ih _ (.inr ⟨_, rfl, trivial⟩)
    | member members key => exact ih _ (.inr ⟨_, rfl, trivial⟩)

theorem Progress.Enters.breakOff {progress : Progress} (enters : progress.Enters) (flaw : Flaw) :
    IsContainer (progress.breakOff flaw) := by
  rcases progress with ⟨frames, need⟩
  cases frames with
  | nil =>
    cases need with
    | separator value => exact isContainer_closeFrames flaw [] _ (.inr ⟨value, rfl, enters⟩)
    | _ => exact enters.elim
  | cons frame frames =>
    have open? := fun inner => isContainer_closeFrames flaw (frame :: frames) inner (.inl (by simp))
    cases need with
    | separator value => exact open? _
    | colon key =>
      cases frame with
      | record members => exact isContainer_closeFrames flaw _ _ (.inl (by simp))
      | _ => exact open? _
    | _ => exact open? _

theorem enters_of_isContainer (value : Source) (container : IsContainer value)
    (frames : List Frame) : Progress.Enters ⟨frames, .separator value⟩ := by
  cases frames with
  | nil => exact container
  | cons frame frames => trivial

theorem enters_of_ne_nil {frames : List Frame} (nonempty : frames ≠ []) (need : Need) :
    Progress.Enters ⟨frames, need⟩ := by
  cases frames with
  | nil => exact absurd rfl nonempty
  | cons frame frames => trivial

theorem enters_beginValue {frames : List Frame} {token : Token} {next : Progress}
    (nonempty : frames ≠ []) (begun : beginValue frames token = some next) : next.Enters := by
  unfold beginValue at begun
  split at begun
  · cases begun
    trivial
  · cases begun
    trivial
  · rcases Option.map_eq_some_iff.mp begun with ⟨value, -, rfl⟩
    exact enters_of_ne_nil nonempty _

theorem enters_afterValue {frames : List Frame} {value : Source} {token : Token} {next : Progress}
    (taken : afterValue value frames token = some next) : next.Enters := by
  unfold afterValue at taken
  split at taken
  all_goals cases taken
  · trivial
  · exact enters_of_isContainer (.list _ _) trivial _
  · trivial
  · exact enters_of_isContainer (.record _ _) trivial _

/-- Once a container is open, the value is a container. -/
theorem Progress.Enters.take? {progress next : Progress} {token : Token}
    (enters : progress.Enters) (taken : progress.take? token = some next) : next.Enters := by
  have nonempty : (∀ value, progress.need ≠ .separator value) → progress.frames ≠ [] := by
    rcases progress with ⟨_ | ⟨frame, frames⟩, need⟩
    · cases need <;> simp_all [Progress.Enters]
    · simp
  unfold Progress.take? at taken
  split at taken
  · exact enters_beginValue (nonempty (by simp)) taken
  · cases taken
    exact enters_of_isContainer (.list _ _) trivial _
  · exact enters_beginValue (nonempty (by simp)) taken
  · cases taken
    exact enters_of_isContainer (.record _ _) trivial _
  · cases taken
    exact enters_of_ne_nil (nonempty (by simp)) _
  · cases taken
    exact enters_of_ne_nil (nonempty (by simp)) _
  · cases taken
    trivial
  · exact enters_afterValue taken
  · cases taken

theorem Progress.Enters.takeAll {progress : Progress} (enters : progress.Enters)
    (tokens : List Token) : IsContainer (progress.takeAll tokens).root := by
  fun_induction Progress.takeAll progress tokens with
  | case1 tokens value => exact enters
  | case2 progress open? => exact enters.breakOff .truncated
  | case3 progress token tokens open? next taken ih => exact ih (enters.take? taken)
  | case4 progress token tokens open? refused => exact enters.breakOff .malformed

/-- A mark only begins a container. -/
theorem enters_of_mark {symbol : Char} {next : Progress}
    (begun : Progress.take? ⟨[], .value⟩ (.mark symbol) = some next) : next.Enters := by
  simp only [Progress.take?, beginValue] at begun
  split at begun
  · cases begun
    trivial
  · cases begun
    trivial
  · simp [Token.scalar?] at begun

theorem of_read_eq_ok {α : Type} {reader : Reader α} {text : String} {value : α}
    (readBack : read reader text = .ok value) :
    reader ⟨maxLevels, false⟩ (parse text).root = .ok value ∧ (parse text).trailing = false := by
  simp only [read, bind, Except.bind] at readBack
  split at readBack
  · cases readBack
  · next result taken =>
    cases behind : (parse text).trailing with
    | true => simp [behind] at readBack
    | false =>
      simp only [behind, Bool.false_eq_true, if_false, Except.ok.injEq] at readBack
      subst readBack
      exact ⟨taken, rfl⟩

/-- A container is not read as a float. -/
theorem not_isContainer_of_float {source : Source} {scope : Scope} {value : Float}
    (taken : Reader.float scope source = .ok value) : ¬ IsContainer source := by
  intro container
  cases source with
  | list items flaw => cases taken
  | record members flaw => cases taken
  | _ => exact container

/-- Only a numeral is read as a float, so a text that holds a float is one. -/
theorem tokens_of_read_float {text : String} {value : Float}
    (readBack : read Reader.float text = .ok value) :
    ∃ numeral, tokens text = [.numeral numeral] ∧
      ∀ scope, Reader.float scope (.numeral numeral) = .ok value := by
  rcases of_read_eq_ok readBack with ⟨taken, noTrail⟩
  have noContainer := not_isContainer_of_float taken
  unfold parse at taken noTrail noContainer
  cases written : tokens text with
  | nil =>
    rw [written] at taken
    cases taken
  | cons token others =>
    rw [written] at taken noTrail noContainer
    have scalar (source : Source) (single : token.scalar? = some source) :
        Progress.takeAll ⟨[], .value⟩ (token :: others) = ⟨source, !others.isEmpty⟩ := by
      have begun : Progress.take? ⟨[], .value⟩ token = some ⟨[], .separator source⟩ := by
        cases token <;> simp_all [Progress.take?, beginValue, Token.scalar?]
      rw [Progress.takeAll_cons begun]
      cases others <;> rfl
    cases token with
    | numeral numeral =>
      rw [scalar (.numeral numeral) rfl] at taken noTrail
      have nothing : others = [] := by simpa using noTrail
      exact ⟨numeral, by rw [nothing], fun _ => taken⟩
    | mark symbol =>
      cases begun : Progress.take? ⟨[], .value⟩ (.mark symbol) with
      | none =>
        simp only [Progress.takeAll, begun] at taken
        cases taken
      | some next =>
        rw [Progress.takeAll_cons begun] at noContainer
        exact absurd ((enters_of_mark begun).takeAll others) noContainer
    | _ =>
      rw [scalar _ rfl] at taken
      cases taken

/-- A float that is read back is spelled as the numeral that is read as it. -/
theorem isNumeral_of_read {value : Float}
    (readBack : read Reader.float (pretty (.real value)) = .ok value) :
    IsNumeral value ∧ ∀ scope, Reader.float scope (sourceOf (.real value)) = .ok value := by
  rcases tokens_of_read_float readBack with ⟨numeral, alone, taken⟩
  have spelled : tokens (floatStyle.spell value) = [.numeral numeral] := alone
  have same : realNumeral value = numeral := by simp [realNumeral, spelled]
  constructor
  · rw [IsNumeral, spelled, same]
  · intro scope
    rw [sourceOf, same]
    exact taken scope

end ClientGen.Json

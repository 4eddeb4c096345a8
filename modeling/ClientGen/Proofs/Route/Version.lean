import ClientGen.Proofs.Text.Case
import ClientGen.Proofs.Text.Segment
import ClientGen.Route.Basic

/-!
# Versions in the segments of a route

The version of a route is found by going through its characters, but it is told by its segments: the
first one that is `api`, in letters of either case, in front of one that is a version number behind
the letter `v`. A number has no slash in it, so looking for one from the beginning of a segment
never goes beyond the next segment, and looking for `api` elsewhere than at the beginning of a
segment is not done at all.
-/

namespace ClientGen.Route

/-- Whether a segment announces a version. -/
def IsApi (segment : List Char) : Prop :=
  segment.map Char.toLower = ['a', 'p', 'i']

/-- Whether some characters are the number of a version: digits, and perhaps a dot and more
digits. -/
inductive IsNumber : List Char → Prop
  | major {major : List Char} (given : major ≠ [])
    (digits : ∀ c ∈ major, Text.isDecimalDigit c = true) : IsNumber major
  | minor {major minor : List Char} (given : major ≠ [])
    (digits : ∀ c ∈ major, Text.isDecimalDigit c = true) (minorGiven : minor ≠ [])
    (minorDigits : ∀ c ∈ minor, Text.isDecimalDigit c = true) : IsNumber (major ++ '.' :: minor)

/-- Whether a segment gives the number of a version. -/
def IsVersion (segment number : List Char) : Prop :=
  (segment = 'v' :: number ∨ segment = 'V' :: number) ∧ IsNumber number

/-- Whether the segment at a place announces a version and the one behind it gives the number. -/
structure VersionAt (segments : List (List Char)) (place : Nat) (number : List Char) : Prop where
  announced : ∃ segment, segments[place]? = some segment ∧ IsApi segment
  given : ∃ segment, segments[place + 1]? = some segment ∧ IsVersion segment number

/-- Whether this is the number of the first version that some segments give. -/
def IsFirstVersion (segments : List (List Char)) (number : List Char) : Prop :=
  ∃ place, VersionAt segments place number ∧
    ∀ earlier < place, ∀ other, ¬VersionAt segments earlier other

variable {cs rest segment number : List Char} {segments : List (List Char)}

/-! ### The first version among segments -/

theorem versionAt_zero_iff :
    VersionAt (segment :: segments) 0 number ↔
      IsApi segment ∧ ∃ next ∈ segments.head?, IsVersion next number := by
  constructor
  · rintro ⟨⟨first, isFirst, announced⟩, next, isNext, version⟩
    cases isFirst
    refine ⟨announced, next, ?_, version⟩
    rw [List.head?_eq_getElem?]
    exact isNext
  · rintro ⟨announced, next, isNext, version⟩
    rw [List.head?_eq_getElem?] at isNext
    exact ⟨⟨segment, rfl, announced⟩, next, isNext, version⟩

theorem versionAt_succ_iff {place : Nat} :
    VersionAt (segment :: segments) (place + 1) number ↔ VersionAt segments place number :=
  ⟨fun ⟨announced, given⟩ => ⟨announced, given⟩, fun ⟨announced, given⟩ => ⟨announced, given⟩⟩

theorem isFirstVersion_of_here {here : List Char} (found : VersionAt (segment :: segments) 0 here) :
    IsFirstVersion (segment :: segments) number ↔ VersionAt (segment :: segments) 0 number := by
  constructor
  · rintro ⟨place, isVersion, first⟩
    cases place with
    | zero => exact isVersion
    | succ place => exact (first 0 (Nat.succ_pos place) here found).elim
  · intro isVersion
    exact ⟨0, isVersion, fun _ earlier => (Nat.not_lt_zero _ earlier).elim⟩

theorem isFirstVersion_of_not_here (none : ∀ other, ¬VersionAt (segment :: segments) 0 other) :
    IsFirstVersion (segment :: segments) number ↔ IsFirstVersion segments number := by
  constructor
  · rintro ⟨place, isVersion, first⟩
    cases place with
    | zero => exact (none number isVersion).elim
    | succ place =>
      refine ⟨place, versionAt_succ_iff.mp isVersion, ?_⟩
      intro earlier isEarlier other found
      exact first (earlier + 1) (Nat.succ_lt_succ isEarlier) other (versionAt_succ_iff.mpr found)
  · rintro ⟨place, isVersion, first⟩
    refine ⟨place + 1, versionAt_succ_iff.mpr isVersion, ?_⟩
    intro earlier isEarlier other found
    cases earlier with
    | zero => exact none other found
    | succ earlier =>
      exact first earlier (Nat.lt_of_succ_lt_succ isEarlier) other (versionAt_succ_iff.mp found)

theorem not_isFirstVersion_single : ¬IsFirstVersion [segment] number := by
  rintro ⟨place, ⟨-, next, isNext, -⟩, -⟩
  cases isNext

/-- If there are versions among some segments, one of them is the first. -/
theorem exists_isFirstVersion {place : Nat} (isVersion : VersionAt segments place number) :
    ∃ number, IsFirstVersion segments number := by
  induction place using Nat.strongRecOn generalizing number with
  | ind place ih =>
    by_cases before : ∃ earlier < place, ∃ other, VersionAt segments earlier other
    · rcases before with ⟨earlier, isEarlier, other, found⟩
      exact ih earlier isEarlier found
    · refine ⟨number, place, isVersion, ?_⟩
      intro earlier isEarlier other found
      exact before ⟨earlier, isEarlier, other, found⟩

/-! ### Numbers -/

theorem not_isDecimalDigit_slash : Text.isDecimalDigit '/' = false := by decide

theorem not_isDecimalDigit_dot : Text.isDecimalDigit '.' = false := by decide

theorem slash_notMem_of_digits (digits : ∀ c ∈ cs, Text.isDecimalDigit c = true) : '/' ∉ cs := by
  intro among
  have digit := digits '/' among
  rw [not_isDecimalDigit_slash] at digit
  cases digit

theorem IsNumber.slash_notMem (isNumber : IsNumber number) : '/' ∉ number := by
  cases isNumber with
  | major given digits => exact slash_notMem_of_digits digits
  | minor given digits minorGiven minorDigits =>
    rw [List.mem_append, List.mem_cons, not_or, not_or]
    exact ⟨slash_notMem_of_digits digits, by decide, slash_notMem_of_digits minorDigits⟩

/-- A segment and what follows it. -/
theorem exists_segment (cs : List Char) :
    ∃ rest, cs = Text.beforeFirst '/' cs ++ rest ∧ atSegmentEnd rest = true := by
  refine ⟨cs.dropWhile (· != '/'), List.takeWhile_append_dropWhile.symm, ?_⟩
  cases ending : cs.dropWhile (· != '/') with
  | nil => rfl
  | cons c rest =>
    have stopped := List.head?_dropWhile_not (· != '/') cs
    rw [ending] at stopped
    simpa [atSegmentEnd] using stopped

theorem beforeFirst_append (fresh : '/' ∉ segment) (ends : atSegmentEnd rest = true) :
    Text.beforeFirst '/' (segment ++ rest) = segment := by
  cases rest with
  | nil => rw [List.append_nil, Text.beforeFirst_of_notMem fresh]
  | cons c rest =>
    rw [eq_of_beq ends, Text.beforeFirst_append_cons fresh]

theorem not_digit_of_atSegmentEnd (ends : atSegmentEnd rest = true) :
    ∀ c ∈ rest.head?, Text.isDecimalDigit c = false := by
  cases rest with
  | nil => exact fun c none => nomatch none
  | cons c rest =>
    rw [eq_of_beq ends, List.head?_cons]
    rintro c ⟨⟩
    exact not_isDecimalDigit_slash

/-- The dot and the digits that go on with a number. -/
def fraction : List Char → List Char
  | '.' :: cs =>
    if cs.takeWhile Text.isDecimalDigit = [] then [] else '.' :: cs.takeWhile Text.isDecimalDigit
  | _ => []

theorem versionNumber?_append {major : List Char}
    (digits : ∀ c ∈ major, Text.isDecimalDigit c = true)
    (ends : ∀ c ∈ rest.head?, Text.isDecimalDigit c = false) :
    versionNumber? (major ++ rest) =
      if major ≠ [] ∧ atSegmentEnd (rest.drop (fraction rest).length) = true then
        some (String.ofList (major ++ fraction rest))
      else none := by
  rw [versionNumber?, Text.takeWhile_append_of_head? digits ends, List.drop_left]
  split
  · next cs =>
    rw [fraction]
    cases cs.takeWhile Text.isDecimalDigit with
    | nil => cases major <;> simp
    | cons c minor => cases major <;> simp
  · next noDot =>
    rw [fraction]
    · cases major <;> simp
    · exact noDot

theorem fraction_of_atSegmentEnd (ends : atSegmentEnd rest = true) : fraction rest = [] := by
  cases rest with
  | nil => rfl
  | cons c rest =>
    rw [eq_of_beq ends]
    rfl

theorem fraction_minor {minor : List Char} (given : minor ≠ [])
    (digits : ∀ c ∈ minor, Text.isDecimalDigit c = true) (ends : atSegmentEnd rest = true) :
    fraction ('.' :: (minor ++ rest)) = '.' :: minor := by
  rw [fraction, Text.takeWhile_append_of_head? digits (not_digit_of_atSegmentEnd ends),
    if_neg given]

theorem versionNumber?_number_append (isNumber : IsNumber number)
    (ends : atSegmentEnd rest = true) :
    versionNumber? (number ++ rest) = some (String.ofList number) := by
  cases isNumber with
  | major given digits =>
    rw [versionNumber?_append digits (not_digit_of_atSegmentEnd ends),
      fraction_of_atSegmentEnd ends, if_pos ⟨given, ends⟩, List.append_nil]
  | @minor major minor given digits minorGiven minorDigits =>
    have dotted : ∀ c ∈ ('.' :: (minor ++ rest)).head?, Text.isDecimalDigit c = false := by
      rintro c ⟨⟩
      exact not_isDecimalDigit_dot
    have behind : ('.' :: (minor ++ rest)).drop ('.' :: minor).length = rest :=
      @List.drop_left _ ('.' :: minor) rest
    rw [List.append_assoc, List.cons_append, versionNumber?_append digits dotted,
      fraction_minor minorGiven minorDigits ends, behind, if_pos ⟨given, ends⟩]

theorem exists_rest_of_versionNumber? {text : String} (found : versionNumber? cs = some text) :
    IsNumber text.toList ∧ ∃ rest, cs = text.toList ++ rest ∧ atSegmentEnd rest = true := by
  have whole : cs.takeWhile Text.isDecimalDigit ++ cs.dropWhile Text.isDecimalDigit = cs :=
    List.takeWhile_append_dropWhile
  have digits : ∀ c ∈ cs.takeWhile Text.isDecimalDigit, Text.isDecimalDigit c = true :=
    fun c among => List.mem_takeWhile_imp among
  have ends : ∀ c ∈ (cs.dropWhile Text.isDecimalDigit).head?, Text.isDecimalDigit c = false := by
    intro c isFirst
    have stopped := List.head?_dropWhile_not Text.isDecimalDigit cs
    rw [Option.mem_def.mp isFirst] at stopped
    simpa using stopped
  generalize cs.takeWhile Text.isDecimalDigit = major at whole digits
  generalize cs.dropWhile Text.isDecimalDigit = behind at whole ends
  subst whole
  rw [versionNumber?_append digits ends] at found
  split at found
  · next proper =>
    rcases proper with ⟨given, closed⟩
    cases found
    rw [String.toList_ofList]
    unfold fraction at closed ⊢
    split at closed
    · next others =>
      split at closed
      · next none =>
        rw [if_pos none, List.append_nil]
        exact ⟨.major given digits, _, rfl, closed⟩
      · next some =>
        rw [if_neg some]
        have rejoined : others.takeWhile Text.isDecimalDigit ++
            others.drop (others.takeWhile Text.isDecimalDigit).length = others :=
          List.prefix_iff_eq_append.mp (List.takeWhile_prefix _)
        refine ⟨.minor given digits some fun c among => List.mem_takeWhile_imp among,
          others.drop (others.takeWhile Text.isDecimalDigit).length, ?_, closed⟩
        rw [List.append_assoc, List.cons_append, rejoined]
    · rw [List.append_nil]
      exact ⟨.major given digits, _, rfl, closed⟩
  · cases found

/-- A number is found exactly where it makes up what is left of a segment. -/
theorem versionNumber?_eq_some_iff {text : String} :
    versionNumber? cs = some text ↔
      IsNumber text.toList ∧ Text.beforeFirst '/' cs = text.toList := by
  constructor
  · intro found
    rcases exists_rest_of_versionNumber? found with ⟨isNumber, rest, rfl, ends⟩
    exact ⟨isNumber, beforeFirst_append isNumber.slash_notMem ends⟩
  · rintro ⟨isNumber, whole⟩
    rcases exists_segment cs with ⟨rest, split, ends⟩
    rw [split, whole, versionNumber?_number_append isNumber ends, String.ofList_toList]

/-! ### Segments that announce versions -/

theorem toLower_eq_v_iff (c : Char) : c.toLower = 'v' ↔ c = 'v' ∨ c = 'V' := by
  have capital : Text.capitals.all fun c => c.toLower = 'v' → c = 'V' := by decide
  constructor
  · intro same
    rcases Text.toLower_eq_or_mem_capitals c with unchanged | isCapital
    · exact .inl (unchanged ▸ same)
    · exact .inr (of_decide_eq_true (List.all_eq_true.mp capital c isCapital) same)
  · rintro (rfl | rfl) <;> rfl

theorem toLower_eq_slash_iff (c : Char) : c.toLower = '/' ↔ c = '/' := by
  constructor
  · intro same
    rcases Text.toLower_eq_or_mem_capitals c with unchanged | isCapital
    · exact unchanged ▸ same
    · have apart : Text.capitals.all fun c => c.toLower != '/' := by decide
      exact (bne_iff_ne.mp (List.all_eq_true.mp apart c isCapital) same).elim
  · rintro rfl
    rfl

theorem IsApi.slash_notMem (announced : IsApi segment) : '/' ∉ segment := by
  intro among
  have lowered := List.mem_map_of_mem (f := Char.toLower) among
  rw [announced] at lowered
  revert lowered
  decide

/-- What the characters look like where a version is looked for. -/
theorem announces_iff :
    (cs.take 5).map Char.toLower = ['a', 'p', 'i', '/', 'v'] ↔
      ∃ api letter rest, cs = api ++ '/' :: letter :: rest ∧ IsApi api ∧
        (letter = 'v' ∨ letter = 'V') := by
  constructor
  · intro same
    match cs with
    | a :: p :: i :: slash :: letter :: rest =>
      simp only [List.take_succ_cons, List.take_zero, List.map_cons, List.map_nil,
        List.cons.injEq, and_true] at same
      rcases same with ⟨isA, isP, isI, isSlash, isV⟩
      refine ⟨[a, p, i], letter, rest, ?_, ?_, (toLower_eq_v_iff letter).mp isV⟩
      · rw [(toLower_eq_slash_iff slash).mp isSlash]
        rfl
      · simp [IsApi, isA, isP, isI]
    | [] | [_] | [_, _] | [_, _, _] | [_, _, _, _] => simp at same
  · rintro ⟨api, letter, rest, rfl, announced, isV⟩
    have three : api.length = 3 := by simpa using congrArg List.length announced
    have front : (api ++ '/' :: letter :: rest).take 5 = api ++ ['/', letter] := by
      rw [List.take_append, List.take_of_length_le (by omega), three]
      rfl
    rw [front, List.map_append, announced]
    simp [(toLower_eq_v_iff letter).mpr isV]

theorem beforeFirst_letter {letter : Char} (isV : letter = 'v' ∨ letter = 'V') :
    Text.beforeFirst '/' (letter :: rest) = letter :: Text.beforeFirst '/' rest := by
  rcases isV with rfl | rfl <;> rfl

theorem isVersion_beforeFirst_iff :
    IsVersion (Text.beforeFirst '/' cs) number ↔
      ∃ letter rest, cs = letter :: rest ∧ (letter = 'v' ∨ letter = 'V') ∧ IsNumber number ∧
        Text.beforeFirst '/' rest = number := by
  constructor
  · rintro ⟨begins, isNumber⟩
    cases cs with
    | nil => rcases begins with none | none <;> cases none
    | cons c rest =>
      have first : c ≠ '/' := by
        rintro rfl
        rcases begins with none | none <;> cases none
      have split : Text.beforeFirst '/' (c :: rest) = c :: Text.beforeFirst '/' rest :=
        List.takeWhile_cons_of_pos (by simpa using first)
      rw [split, List.cons.injEq, List.cons.injEq] at begins
      refine ⟨c, rest, rfl, begins.imp And.left And.left, isNumber, ?_⟩
      exact begins.elim And.right And.right
  · rintro ⟨letter, rest, rfl, isV, isNumber, whole⟩
    rw [beforeFirst_letter isV, whole]
    refine ⟨?_, isNumber⟩
    rcases isV with rfl | rfl
    · exact .inl rfl
    · exact .inr rfl

theorem versionHere?_append {api : List Char} {letter : Char} (announced : IsApi api)
    (isV : letter = 'v' ∨ letter = 'V') :
    versionHere? (api ++ '/' :: letter :: rest) = versionNumber? rest := by
  have three : api.length = 3 := by simpa using congrArg List.length announced
  have behind : (api ++ '/' :: letter :: rest).drop 5 = rest := by
    rw [List.drop_append, List.drop_of_length_le (by omega), three]
    rfl
  rw [versionHere?, announces_iff.mpr ⟨api, letter, rest, rfl, announced, isV⟩, behind]
  rfl

theorem versionHere?_eq_some_iff {text : String} :
    versionHere? cs = some text ↔
      ∃ api rest, cs = api ++ '/' :: rest ∧ IsApi api ∧
        IsVersion (Text.beforeFirst '/' rest) text.toList := by
  simp only [isVersion_beforeFirst_iff]
  constructor
  · intro found
    have announces : (cs.take 5).map Char.toLower = ['a', 'p', 'i', '/', 'v'] := by
      by_contra other
      rw [versionHere?, if_neg (by simpa using other)] at found
      cases found
    rcases announces_iff.mp announces with ⟨api, letter, rest, rfl, announced, isV⟩
    rw [versionHere?_append announced isV, versionNumber?_eq_some_iff] at found
    exact ⟨api, letter :: rest, rfl, announced, letter, rest, rfl, isV, found⟩
  · rintro ⟨api, _, rfl, announced, letter, rest, rfl, isV, isNumber⟩
    rw [versionHere?_append announced isV, versionNumber?_eq_some_iff]
    exact isNumber

theorem versionHere?_of_fresh (fresh : '/' ∉ segment) : versionHere? segment = none := by
  rw [Option.eq_none_iff_forall_ne_some]
  intro text found
  rcases versionHere?_eq_some_iff.mp found with ⟨api, rest, rfl, -⟩
  apply fresh
  simp

/-- A version is found at the beginning of a segment exactly if the segment and the next one give
it. -/
theorem versionHere?_append_iff {text : String} (fresh : '/' ∉ segment) :
    versionHere? (segment ++ '/' :: rest) = some text ↔
      VersionAt (segment :: Text.splitAt '/' rest) 0 text.toList := by
  rw [versionHere?_eq_some_iff, versionAt_zero_iff, Text.head?_splitAt]
  constructor
  · rintro ⟨api, others, whole, announced, isVersion⟩
    have same : segment = api := by
      rw [← Text.beforeFirst_append_cons fresh, whole,
        Text.beforeFirst_append_cons announced.slash_notMem]
    rw [same, List.append_cancel_left_eq, List.cons.injEq] at whole
    rw [same, whole.2]
    exact ⟨announced, _, rfl, isVersion⟩
  · rintro ⟨announced, _, ⟨⟩, isVersion⟩
    exact ⟨segment, rest, rfl, announced, isVersion⟩

/-! ### Going through the segments -/

theorem not_slash_of_fresh {c : Char} (fresh : '/' ∉ c :: segment) :
    (c == '/') = false ∧ '/' ∉ segment := by
  rw [List.mem_cons, not_or] at fresh
  exact ⟨beq_false_of_ne (Ne.symm fresh.1), fresh.2⟩

theorem versionFrom?_false_of_fresh (fresh : '/' ∉ segment) :
    versionFrom? false segment = none := by
  induction segment with
  | nil => rfl
  | cons c segment ih =>
    rcases not_slash_of_fresh fresh with ⟨other, others⟩
    rw [versionFrom?, other]
    exact ih others

theorem versionFrom?_false_append (fresh : '/' ∉ segment) :
    versionFrom? false (segment ++ '/' :: rest) = versionFrom? true rest := by
  induction segment with
  | nil => rfl
  | cons c segment ih =>
    rcases not_slash_of_fresh fresh with ⟨other, others⟩
    rw [List.cons_append, versionFrom?, other]
    exact ih others

theorem versionFrom?_true_of_fresh (fresh : '/' ∉ segment) :
    versionFrom? true segment = none := by
  cases segment with
  | nil => rfl
  | cons c segment =>
    rcases not_slash_of_fresh fresh with ⟨other, others⟩
    rw [versionFrom?, if_pos rfl, versionHere?_of_fresh fresh, other]
    exact versionFrom?_false_of_fresh others

theorem versionFrom?_true_append (fresh : '/' ∉ segment) :
    versionFrom? true (segment ++ '/' :: rest) =
      (versionHere? (segment ++ '/' :: rest)).or (versionFrom? true rest) := by
  cases segment with
  | nil =>
    rw [List.nil_append, versionFrom?]
    cases versionHere? ('/' :: rest) <;> rfl
  | cons c segment =>
    rcases not_slash_of_fresh fresh with ⟨other, others⟩
    rw [List.cons_append, versionFrom?, other, versionFrom?_false_append others]
    cases versionHere? (c :: (segment ++ '/' :: rest)) <;> rfl

theorem versionFrom?_iff (cs : List Char) (text : String) :
    versionFrom? true cs = some text ↔ IsFirstVersion (Text.splitAt '/' cs) text.toList := by
  induction cs using Text.segments_induction '/' with
  | last segment fresh =>
    rw [versionFrom?_true_of_fresh fresh, Text.splitAt_of_notMem fresh]
    constructor
    · intro none
      cases none
    · intro isFirst
      exact (not_isFirstVersion_single isFirst).elim
  | front segment rest fresh ih =>
    rw [versionFrom?_true_append fresh, Text.splitAt_append_cons fresh]
    cases found : versionHere? (segment ++ '/' :: rest) with
    | some here =>
      rw [Option.some_or, isFirstVersion_of_here ((versionHere?_append_iff fresh).mp found),
        ← versionHere?_append_iff fresh, found]
    | none =>
      rw [Option.none_or, ih, isFirstVersion_of_not_here]
      intro other isVersion
      rw [← String.toList_ofList (l := other), ← versionHere?_append_iff fresh, found] at isVersion
      cases isVersion

/-- The version of a route is told by its segments: it has one exactly if some segment is `api`, in
letters of either case, and the next one is the letter `v` of either case and a number, which is
the version for the first such pair. -/
theorem version?_of_segments (route : String) :
    (∀ number, version? route = some number ↔
      IsFirstVersion (Text.splitAt '/' route.toList) number.toList) ∧
    (version? route = none ↔
      ∀ place number, ¬VersionAt (Text.splitAt '/' route.toList) place number) := by
  have found (number : String) : version? route = some number ↔
      IsFirstVersion (Text.splitAt '/' route.toList) number.toList :=
    versionFrom?_iff route.toList number
  refine ⟨found, ?_, ?_⟩
  · intro none place number isVersion
    rcases exists_isFirstVersion isVersion with ⟨first, isFirst⟩
    rw [← String.toList_ofList (l := first), ← found, none] at isFirst
    cases isFirst
  · intro nowhere
    rw [Option.eq_none_iff_forall_ne_some]
    intro number isFound
    rcases (found number).mp isFound with ⟨place, isVersion, -⟩
    exact nowhere place number.toList isVersion

example : version? "webapi/v1/API/V2.10/api/v3" = some "2.10" := by decide

end ClientGen.Route

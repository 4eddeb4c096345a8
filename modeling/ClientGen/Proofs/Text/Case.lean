import ClientGen.Text.CaseMap
import ClientGen.Text.Segment

/-!
# Two ways to ignore case

Names are compared without regard to case in two ways: by the letters A to Z alone, and by the lower
case of the whole name, which maps other letters too and looks at their neighbours. Lowering a text
does not depend on whether the letters A to Z in it were lowered before, so names that are equal in
the first way are equal in the second.
-/

namespace ClientGen.Text

/-- The letters A to Z. -/
def capitals : List Char :=
  "ABCDEFGHIJKLMNOPQRSTUVWXYZ".toList

theorem toLower_eq_or_mem_capitals (c : Char) : c.toLower = c ∨ c ∈ capitals := by
  by_cases capital : c.val ≥ 'A'.val ∧ c.val ≤ 'Z'.val
  · have amongThem : ∀ code ∈ List.range 91, 65 ≤ code → Char.ofNat code ∈ capitals := by decide
    have least : 65 ≤ c.toNat := UInt32.le_iff_toNat_le.mp capital.1
    have greatest : c.toNat ≤ 90 := UInt32.le_iff_toNat_le.mp capital.2
    have among := amongThem c.toNat (List.mem_range.mpr (by omega)) least
    rw [Char.ofNat_toNat] at among
    exact .inr among
  · exact .inl (dif_neg capital)

/-- What gives the same for the capitals and their lower case does so for all characters. -/
theorem apply_toLower {α : Type} [DecidableEq α] {f : Char → α}
    (same : capitals.all fun c => f c.toLower = f c) (c : Char) : f c.toLower = f c := by
  rcases toLower_eq_or_mem_capitals c with unchanged | capital
  · rw [unchanged]
  · exact of_decide_eq_true (List.all_eq_true.mp same c capital)

theorem inRanges_casedRanges_toLower (c : Char) :
    inRanges casedRanges c.toLower = inRanges casedRanges c :=
  apply_toLower (by decide +kernel) c

theorem inRanges_eq_false {ranges : Array (Nat × Nat)} {c : Char}
    (apart : ∀ range ∈ ranges.toList, range.2 < c.toNat ∨ c.toNat < range.1) :
    inRanges ranges c = false := by
  rw [inRanges, ← Array.any_toList, List.any_eq_false]
  intro range among
  have := apart range among
  simp only [Bool.and_eq_true, decide_eq_true_eq]
  omega

theorem inRanges_caseIgnorableRanges_toLower (c : Char) :
    inRanges caseIgnorableRanges c.toLower = inRanges caseIgnorableRanges c := by
  have codes : capitals.all fun c => 65 ≤ c.toNat ∧ c.toNat ≤ 90 ∧
      97 ≤ c.toLower.toNat ∧ c.toLower.toNat ≤ 122 := by decide
  have aside : ∀ range ∈ caseIgnorableRanges.toList,
      range.2 < 65 ∨ 90 < range.1 ∧ range.2 < 97 ∨ 122 < range.1 := by decide +kernel
  rcases toLower_eq_or_mem_capitals c with unchanged | capital
  · rw [unchanged]
  · have code := of_decide_eq_true (List.all_eq_true.mp codes c capital)
    rw [inRanges_eq_false, inRanges_eq_false]
    · intro range among
      have := aside range among
      omega
    · intro range among
      have := aside range among
      omega

theorem lowerChar_toLower (c : Char) : lowerChar c.toLower = lowerChar c :=
  apply_toLower (by decide) c

theorem toLower_beq_sigma (c : Char) : (c.toLower == 'Σ') = (c == 'Σ') :=
  apply_toLower (f := (· == 'Σ')) (by decide) c

theorem startsCased_map_toLower (cs : List Char) :
    startsCased (cs.map Char.toLower) = startsCased cs := by
  have sameIgnored : inRanges caseIgnorableRanges ∘ Char.toLower =
      inRanges caseIgnorableRanges := by
    funext c
    rw [Function.comp_apply, inRanges_caseIgnorableRanges_toLower]
  rw [startsCased, startsCased, List.dropWhile_map, sameIgnored]
  cases cs.dropWhile (inRanges caseIgnorableRanges) with
  | nil => rfl
  | cons c others => exact inRanges_casedRanges_toLower c

theorem lowerFrom_map_toLower (before cs : List Char) :
    lowerFrom (before.map Char.toLower) (cs.map Char.toLower) = lowerFrom before cs := by
  induction cs generalizing before with
  | nil => rfl
  | cons c cs ih =>
    have others := ih (c :: before)
    rw [List.map_cons] at others
    rw [List.map_cons, lowerFrom, lowerFrom, others]
    simp only [toLower_beq_sigma, lowerChar_toLower, startsCased_map_toLower]

theorem lower_lowerAscii (text : String) : lower (lowerAscii text) = lower text := by
  rw [lower, lower, lowerAscii, String.toList_ofList]
  exact congrArg String.ofList (lowerFrom_map_toLower [] text.toList)

/-- Names that differ only in the case of the letters A to Z have the same lower case. -/
theorem lower_eq_of_lowerAscii_eq {first second : String}
    (same : lowerAscii first = lowerAscii second) : lower first = lower second := by
  rw [← lower_lowerAscii first, same, lower_lowerAscii]

end ClientGen.Text

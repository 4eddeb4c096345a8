import ClientGen.Decimal.Style
import ClientGen.Proofs.Text.Digit

/-!
# The characters of a spelled float

A float is spelled with digits, a few marks, and the texts that its style chooses, so what holds of
these characters holds of all in the spelling.
-/

namespace ClientGen.Decimal

variable {good : Char → Prop} {digits : List Char}

theorem forall_mem_toDigits (ofDigits : ∀ c : Char, c.isDigit = true → good c) (number : Nat) :
    ∀ c ∈ Nat.toDigits 10 number, good c :=
  fun c among => ofDigits c (Nat.isDigit_of_mem_toDigits (by decide) (by decide) among)

theorem forall_mem_positional {wholeMark : String} (zero : good '0') (point : good '.')
    (mark : ∀ c ∈ wholeMark.toList, good c) (ofDigits : ∀ c ∈ digits, good c) (leading : Int) :
    ∀ c ∈ (positional wholeMark digits leading).toList, good c := by
  have zeros (count : Nat) : ∀ c ∈ List.replicate count '0', good c := by
    intro c among
    rw [List.eq_of_mem_replicate among]
    exact zero
  unfold positional
  split
  · simp only [String.toList_ofList, List.forall_mem_cons, List.forall_mem_append]
    exact ⟨⟨zero, point, zeros _⟩, ofDigits⟩
  · simp only
    split
    · simp only [String.toList_append, String.toList_ofList, List.forall_mem_append]
      exact ⟨⟨ofDigits, zeros _⟩, mark⟩
    · simp only [String.toList_ofList, List.forall_mem_append, List.forall_mem_cons]
      exact ⟨fun c among => ofDigits c (List.mem_of_mem_take among), point,
        fun c among => ofDigits c (List.mem_of_mem_drop among)⟩

theorem forall_mem_withExponent {positiveExponent : String}
    (anyDigit : ∀ c : Char, c.isDigit = true → good c) (marks : ∀ c ∈ ['-', '.', 'e'], good c)
    (mark : ∀ c ∈ positiveExponent.toList, good c) (ofDigits : ∀ c ∈ digits, good c)
    (leading : Int) : ∀ c ∈ (withExponent positiveExponent digits leading).toList, good c := by
  simp only [List.forall_mem_cons] at marks
  obtain ⟨minus, point, exponent, -⟩ := marks
  have number : ∀ c ∈ (toString leading.natAbs).toList, good c :=
    fun c among => anyDigit c (Text.isDigit_of_mem_toString among)
  have sign : ∀ c ∈ (if leading < 0 then "-" else positiveExponent).toList, good c := by
    split
    · simpa using minus
    · exact mark
  simp only [withExponent, String.toList_append, List.forall_mem_append]
  refine ⟨⟨⟨?_, by simpa using exponent⟩, sign⟩, number⟩
  split
  · simp
  · simpa using ofDigits
  · simp only [String.toList_ofList, List.forall_mem_cons] at ofDigits ⊢
    exact ⟨ofDigits.1, point, ofDigits.2⟩

/-- What holds of digits, of the marks in numbers and of the texts of a style holds of all
characters of a spelled float. -/
theorem forall_mem_spell {style : Style} (ofDigits : ∀ c : Char, c.isDigit = true → good c)
    (marks : ∀ c ∈ ['-', '.', 'e'], good c)
    (texts : ∀ text ∈ [style.wholeMark, style.positiveExponent, style.notANumber, style.infinity,
      style.negativeInfinity], ∀ c ∈ text.toList, good c) (x : Float) :
    ∀ c ∈ (style.spell x).toList, good c := by
  simp only [List.forall_mem_cons] at texts
  obtain ⟨whole, exponent, notANumber, infinity, negative, -⟩ := texts
  have minus : good '-' := marks '-' (by simp)
  have sign : ∀ c ∈ (if isNegative x then "-" else "").toList, good c := by
    split
    · simpa using minus
    · simp
  unfold Style.spell
  split
  · exact notANumber
  split
  · split
    · exact negative
    · exact infinity
  simp only
  split
  · simp only [String.toList_append, List.forall_mem_append]
    exact ⟨⟨sign, by simpa using ofDigits '0' (by decide)⟩, whole⟩
  · rw [String.toList_append, List.forall_mem_append]
    refine ⟨sign, ?_⟩
    split
    · exact forall_mem_positional (ofDigits '0' (by decide)) (marks '.' (by simp)) whole
        (forall_mem_toDigits ofDigits _) _
    · exact forall_mem_withExponent ofDigits marks exponent (forall_mem_toDigits ofDigits _) _

end ClientGen.Decimal

import Mathlib.Data.List.Basic
import Mathlib.Data.String.Basic

/-!
# Digits

What is said of all decimal digits is checked on the ten of them. A natural number is written in
digits only, and different numbers are written differently.
-/

namespace ClientGen.Text

/-- The decimal digits. -/
def digits : List Char :=
  "0123456789".toList

theorem mem_digits_of_isDigit {c : Char} (digit : c.isDigit = true) : c ∈ digits := by
  simp only [Char.isDigit, Bool.and_eq_true, decide_eq_true_eq, ge_iff_le] at digit
  have amongThem : ∀ code ∈ List.range 58, 48 ≤ code → Char.ofNat code ∈ digits := by decide
  have least : 48 ≤ c.toNat := UInt32.le_iff_toNat_le.mp digit.1
  have greatest : c.toNat ≤ 57 := UInt32.le_iff_toNat_le.mp digit.2
  have among := amongThem c.toNat (List.mem_range.mpr (by omega)) least
  rwa [Char.ofNat_toNat] at among

theorem isDigit_of_mem_toString {number : Nat} {c : Char} (among : c ∈ (toString number).toList) :
    c.isDigit = true := by
  rw [Nat.toString_eq_repr, Nat.toList_repr] at among
  exact Nat.isDigit_of_mem_toDigits (by decide) (by decide) among

theorem toString_injective : Function.Injective (toString : Nat → String) := by
  intro first second same
  have sameDigits : Nat.toDigits 10 first = Nat.toDigits 10 second := by
    simpa [← Nat.toList_repr] using congrArg String.toList same
  calc first = Nat.ofDigitChars 10 (Nat.toDigits 10 first) 0 := Nat.ofDigitChars_ten_toDigits.symm
    _ = Nat.ofDigitChars 10 (Nat.toDigits 10 second) 0 := by rw [sameDigits]
    _ = second := Nat.ofDigitChars_ten_toDigits

end ClientGen.Text

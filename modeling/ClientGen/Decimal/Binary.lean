/-!
# Binary floating-point numbers as exact quantities

A finite number of double precision is `m · 2 ^ q` for a natural number `m` below `2 ^ 53`, up to
its sign. `Magnitude` holds the two numbers, `Magnitude.ofFloat` takes a float apart, and `nearest`
goes the other way: it gives the double closest to a quotient of natural numbers, and of two that
are equally close the one with an even `m`. Everything between is arithmetic on natural numbers.
-/

namespace ClientGen.Decimal

/-- The absolute value `significand · 2 ^ exponent` of a finite float. -/
structure Magnitude where
  significand : Nat
  exponent : Int

/-- The exponent of the smallest positive double. -/
def minExponent : Int := -1074

/-- The first significand that takes all 53 bits. -/
def hiddenBit : Nat := Nat.pow 2 52

/-- Whether the sign bit is set, which holds of a negative zero too. -/
def isNegative (x : Float) : Bool :=
  x.toBits.toNat / Nat.pow 2 63 == 1

/-- The absolute value of a finite float. -/
def Magnitude.ofFloat (x : Float) : Magnitude :=
  let bits := x.toBits.toNat
  let biased : Nat := bits / Nat.pow 2 52 % 2048
  let fraction : Nat := bits % Nat.pow 2 52
  if biased == 0 then ⟨fraction, minExponent⟩
  else ⟨fraction + hiddenBit, (biased : Int) - 1075⟩

/-- The bits of the double with this significand and exponent, which are those of a double. -/
def Magnitude.toBits (value : Magnitude) : Nat :=
  if value.significand < hiddenBit then value.significand
  else (value.exponent + 1075).toNat * Nat.pow 2 52 + (value.significand - hiddenBit)

/-- The quotient rounded to the nearest integer, ties to the even one. -/
def roundedQuotient (num den : Nat) : Nat :=
  let quotient := num / den
  let twice := 2 * (num % den)
  if twice < den || (twice == den && quotient % 2 == 0) then quotient else quotient + 1

/-- `num / den · 2 ^ (-exponent)` as a quotient of natural numbers. -/
def scaleDown (num den : Nat) (exponent : Int) : Nat × Nat :=
  if exponent < 0 then (num * Nat.pow 2 (-exponent).toNat, den)
  else (num, den * Nat.pow 2 exponent.toNat)

/-- The greatest `t` with `2 ^ t ≤ num / den`, for positive numbers. -/
def floorLog2 (num den : Nat) : Int :=
  let guess : Int := num.log2 - den.log2
  let (scaledNum, scaledDen) := scaleDown num den guess
  if scaledDen ≤ scaledNum then guess else guess - 1

/-- The bits of the double nearest to `num / den`; infinity when that is out of range. -/
def nearestBits (num den : Nat) : Nat :=
  if num == 0 then 0
  else
    let exponent := max (floorLog2 num den - 52) minExponent
    let (scaledNum, scaledDen) := scaleDown num den exponent
    let significand := roundedQuotient scaledNum scaledDen
    let rounded : Magnitude :=
      if significand == 2 * hiddenBit then ⟨hiddenBit, exponent + 1⟩ else ⟨significand, exponent⟩
    if rounded.exponent > 971 then 2047 * Nat.pow 2 52 else rounded.toBits

/-- The double nearest to `num / den`, negated on demand. -/
def nearest (negative : Bool) (num den : Nat) : Float :=
  Float.ofBits (UInt64.ofNat (nearestBits num den + if negative then Nat.pow 2 63 else 0))

/-- The double nearest to `coefficient · 10 ^ exponent`. Exponents far beyond the range of doubles
are not computed with. -/
def nearestDecimal (negative : Bool) (coefficient : Nat) (exponent : Int) : Float :=
  let digits : Int := (Nat.toDigits 10 coefficient).length
  if coefficient == 0 || digits + exponent < -400 then nearest negative 0 1
  else if digits + exponent > 400 then nearest negative (Nat.pow 2 1100) 1
  else if exponent < 0 then nearest negative coefficient (Nat.pow 10 (-exponent).toNat)
  else nearest negative (coefficient * Nat.pow 10 exponent.toNat) 1

end ClientGen.Decimal

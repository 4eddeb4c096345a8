import ClientGen.Decimal.Binary

/-!
# Shortest decimals

The decimal with the fewest digits among those that read back as a given double, and of these the
one closest to it. For each number of digits the decimals form a grid; if any point of the grid
reads back, then so does one of the two that enclose the double. So it is enough to try the
enclosing pair on ever finer grids, in exact arithmetic, until a point of it lies in the interval
of numbers that round to the double. A grid with seventeen digits always has one.
-/

namespace ClientGen.Decimal

/-- Which of two equally close decimals is chosen. -/
inductive Tie where
  | toEven
  | upwards
  deriving DecidableEq

/-- The number `coefficient · 10 ^ exponent`. -/
structure Scientific where
  coefficient : Nat
  exponent : Int

/-- The numbers that round to a double: it and the two ends over one denominator. -/
structure Interval where
  low : Nat
  value : Nat
  high : Nat
  den : Nat
  closed : Bool

/-- The interval of a positive double. Its lower half is narrower at the powers of two, where the
next double below has a smaller exponent; the ends belong to it when the significand is even. -/
def Interval.around (double : Magnitude) : Interval :=
  let narrow := double.significand == hiddenBit && minExponent < double.exponent
  let m := 4 * double.significand
  let scale := fun n : Nat => n * Nat.pow 2 (double.exponent - 2).toNat
  { low := scale (m - if narrow then 1 else 2)
    value := scale m
    high := scale (m + 2)
    den := Nat.pow 2 (2 - double.exponent).toNat
    closed := double.significand % 2 == 0 }

/-- `10 ^ n` for an exponent of either sign, as numerator and denominator. -/
def powerOfTen (n : Int) : Nat × Nat :=
  (Nat.pow 10 n.toNat, Nat.pow 10 (-n).toNat)

/-- The decimal exponent of the first digit: the greatest `k` with `10 ^ k` not above the value. -/
def Interval.leadingExponent (interval : Interval) : Int :=
  let guess := ((interval.value.log2 : Int) - interval.den.log2) * 30103 / 100000
  let reaches := fun k : Int =>
    let (num, den) := powerOfTen k
    num * interval.den ≤ interval.value * den
  ([guess + 2, guess + 1, guess, guess - 1].find? (decide <| reaches ·)).getD (guess - 2)

/-- Whether `coefficient` units of `num / den` lie in the interval. -/
def Interval.contains (interval : Interval) (num den coefficient : Nat) : Bool :=
  let point := coefficient * num * interval.den
  if interval.closed then
    interval.low * den ≤ point && point ≤ interval.high * den
  else interval.low * den < point && point < interval.high * den

/-- The better of the two grid points that enclose the value, if one lies in the interval. -/
def Interval.onGrid? (interval : Interval) (tie : Tie) (exponent : Int) : Option Scientific :=
  let (num, den) := powerOfTen exponent
  let unit := num * interval.den
  let scaled := interval.value * den
  let below := scaled / unit
  let twice := 2 * (scaled % unit)
  let lowerFirst := twice < unit || (twice == unit && tie == .toEven && below % 2 == 0)
  let order := if lowerFirst then [below, below + 1] else [below + 1, below]
  (order.find? (interval.contains num den)).map (⟨·, exponent⟩)

/-- Moves trailing zeros of the coefficient into the exponent; at most `steps` of them. -/
def Scientific.normalize : Nat → Scientific → Scientific
  | 0, number => number
  | steps + 1, number =>
    if number.coefficient % 10 == 0 then
      normalize steps ⟨number.coefficient / 10, number.exponent + 1⟩
    else number

/-- The shortest decimal of a positive double. -/
def shortest (tie : Tie) (double : Magnitude) : Scientific :=
  let interval := Interval.around double
  let leading := interval.leadingExponent
  let grids := (List.range 17).map fun digits : Nat => leading - (digits : Int)
  ((grids.findSome? (interval.onGrid? tie)).getD ⟨0, 0⟩).normalize 20

end ClientGen.Decimal

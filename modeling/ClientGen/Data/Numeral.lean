import ClientGen.Decimal.Binary

/-!
# Numerals

A numeral as it is written in a data format, and its value. Whole numbers of up to 64 bits are
taken exactly. Anything else becomes a float: the digits are gathered into an integer of at most
64 bits, digits beyond that only shift the exponent, and one multiplication or division by a power
of ten scales the result. A numeral whose float would be infinite has no value.
-/

namespace ClientGen.Data

/-- The value of a numeral. -/
inductive Number where
  | int (value : Int)
  | real (value : Float)

/-- The exponent part: its sign and its digits. -/
structure ExponentPart where
  negative : Bool
  digits : List Nat

/-- The parts of a numeral; there is at least one digit in each part that is present. -/
structure Numeral where
  negative : Bool
  whole : List Nat
  fraction : Option (List Nat)
  exponent : Option ExponentPart

/-- The greatest integer of 64 bits. -/
def maxWord : Nat := Nat.pow 2 64 - 1

/-- Digits gathered so far, and the digits of the current part that did not fit any more. -/
structure Gathered where
  significand : Nat
  left : List Nat

/-- Gathers digits for as long as the significand fits into 64 bits. -/
def gather (significand : Nat) : List Nat → Gathered
  | [] => ⟨significand, []⟩
  | digit :: digits =>
    if 10 * significand + digit ≤ maxWord then gather (10 * significand + digit) digits
    else ⟨significand, digit :: digits⟩

/-- The double `10 ^ n`. -/
def floatPower (n : Nat) : Float :=
  Decimal.nearestDecimal false 1 n

/-- Scales by a power of ten. Powers down to `10 ^ (-308)` take one division; below, the division
is repeated until the value is zero, for which `rounds` is large enough when it is at least 4. -/
def scale : (rounds : Nat) → Float → Int → Option Float
  | 0, x, _ => some x
  | rounds + 1, x, exponent =>
    if exponent.natAbs ≤ 308 then
      if 0 ≤ exponent then
        let scaled := x * floatPower exponent.natAbs
        if scaled.isInf then none else some scaled
      else some (x / floatPower exponent.natAbs)
    else if x == 0.0 then some x
    else if 0 ≤ exponent then none
    else scale rounds (x / floatPower 308) (exponent + 308)

/-- The greatest magnitude of a written exponent that is computed with. -/
def maxExponent : Nat := Nat.pow 2 31 - 1

/-- The float of gathered digits with an exponent part. -/
def realValue (negative : Bool) (significand : Nat) (shift : Int)
    (exponent : Option ExponentPart) : Option Float :=
  let sign := fun x : Float => if negative then -x else x
  let scaled := fun power : Int => (scale 4 (UInt64.ofNat significand).toFloat power).map sign
  match exponent with
  | none => scaled shift
  | some part =>
    let power := part.digits.foldl (10 * · + ·) 0
    if power > maxExponent then
      if significand != 0 && !part.negative then none else some (sign 0.0)
    else scaled (if part.negative then shift - power else shift + power)

/-- The value of a numeral, if it is in range. A negative zero is a float. -/
def Numeral.value? (numeral : Numeral) : Option Number :=
  let whole := gather 0 numeral.whole
  match numeral.fraction, numeral.exponent with
  | none, none =>
    if whole.left.isEmpty then
      if !numeral.negative then some (.int whole.significand)
      else if whole.significand == 0 || whole.significand > Nat.pow 2 63 then
        some (.real (-(UInt64.ofNat whole.significand).toFloat))
      else some (.int (-whole.significand))
    else (realValue numeral.negative whole.significand whole.left.length none).map .real
  | fraction, exponent =>
    let digits := fraction.getD []
    let all := gather whole.significand digits
    let shift : Int := whole.left.length - (digits.length - all.left.length)
    (realValue numeral.negative all.significand shift exponent).map .real

end ClientGen.Data

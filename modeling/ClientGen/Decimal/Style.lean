import ClientGen.Decimal.Shortest

/-!
# Spelling floats

The digits of a float are fixed by `Decimal.shortest`. What a format decides beyond them is put
into one record, `Decimal.Style`: which exponents are written out in positional notation, how a
whole number shows that it is a float, and how exponents and the values without digits look.
-/

namespace ClientGen.Decimal

/-- The decisions of a format. -/
structure Style where
  /-- Exponents of the leading digit from which on positional notation is used. -/
  positionalFrom : Int
  /-- Exponents of the leading digit up to which positional notation is used. -/
  positionalTo : Int
  /-- What follows a whole number in positional notation. -/
  wholeMark : String
  /-- What stands before an exponent that is not negative. -/
  positiveExponent : String
  tie : Tie
  notANumber : String
  infinity : String
  negativeInfinity : String

/-- Digits and the exponent of the first of them, in positional notation. -/
def positional (wholeMark : String) (digits : List Char) (leading : Int) : String :=
  if leading < 0 then
    String.ofList ('0' :: '.' :: List.replicate (-leading - 1).toNat '0' ++ digits)
  else
    let width := leading.toNat + 1
    if digits.length ≤ width then
      String.ofList (digits ++ List.replicate (width - digits.length) '0') ++ wholeMark
    else String.ofList (digits.take width ++ '.' :: digits.drop width)

/-- Digits and the exponent of the first of them, with a written exponent. -/
def withExponent (positiveExponent : String) (digits : List Char) (leading : Int) : String :=
  let mantissa :=
    match digits with
    | [] => ""
    | [digit] => String.ofList [digit]
    | digit :: others => String.ofList (digit :: '.' :: others)
  mantissa ++ "e" ++ (if leading < 0 then "-" else positiveExponent) ++ toString leading.natAbs

/-- The spelling of a float. -/
def Style.spell (style : Style) (x : Float) : String :=
  if x.isNaN then style.notANumber
  else if x.isInf then
    if isNegative x then style.negativeInfinity else style.infinity
  else
    let sign := if isNegative x then "-" else ""
    let double := Magnitude.ofFloat x
    if double.significand == 0 then sign ++ "0" ++ style.wholeMark
    else
      let number := shortest style.tie double
      let digits := Nat.toDigits 10 number.coefficient
      let leading := number.exponent + digits.length - 1
      sign ++
        if style.positionalFrom ≤ leading && leading ≤ style.positionalTo then
          positional style.wholeMark digits leading
        else withExponent style.positiveExponent digits leading

end ClientGen.Decimal

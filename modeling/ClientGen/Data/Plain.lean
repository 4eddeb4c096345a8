import ClientGen.Data.Numeral
import ClientGen.Text.Segment

/-!
# Scalars without quotes

What a scalar without quotes looks like: null, a truth value, an integer in one of four bases, or a
float. Digits that begin with a superfluous zero are none of these.
-/

namespace ClientGen.Data.Plain

/-- Whether a scalar is a spelling of null. -/
def isNull (text : String) : Bool :=
  text == "~" || text == "null" || text == "Null" || text == "NULL"

/-- The truth value that a scalar spells. -/
def bool? (text : String) : Option Bool :=
  if text == "true" || text == "True" || text == "TRUE" then some true
  else if text == "false" || text == "False" || text == "FALSE" then some false
  else none

/-- The value of a digit in bases up to sixteen. -/
def digit? (base : Nat) (c : Char) : Option Nat :=
  let value :=
    if c.isDigit then c.toNat - '0'.toNat
    else if 'a' ≤ c && c ≤ 'f' then c.toNat - 'a'.toNat + 10
    else if 'A' ≤ c && c ≤ 'F' then c.toNat - 'A'.toNat + 10
    else base
  if value < base then some value else none

/-- The natural number of a row of digits, which must not be empty. -/
def natural? (base : Nat) : List Char → Option Nat
  | [] => none
  | c :: cs => do
    let digits ← (c :: cs).mapM (digit? base)
    some (digits.foldl (base * · + ·) 0)

/-- Drops one sign. -/
def withoutSign : List Char → List Char
  | '+' :: cs => cs
  | '-' :: cs => cs
  | cs => cs

/-- Digits after a zero that does not count, which make a text and no number. -/
def hasLeadingZero (cs : List Char) : Bool :=
  match withoutSign cs with
  | '0' :: c :: others => (c :: others).all Char.isDigit
  | _ => false

/-- A number in a base other than ten, behind the sign. -/
def based? : List Char → Option Nat
  | '0' :: 'x' :: digits => natural? 16 digits
  | '0' :: 'o' :: digits => natural? 8 digits
  | '0' :: 'b' :: digits => natural? 2 digits
  | _ => none

/-- The integer that characters spell. -/
def intOf? (cs : List Char) : Option Int :=
  let (negative, digits) :=
    match cs with
    | '+' :: digits => (false, digits)
    | '-' :: digits => (true, digits)
    | digits => (false, digits)
  let value :=
    match based? digits with
    | some value => some value
    | none => if hasLeadingZero cs then none else natural? 10 digits
  value.map fun value => if negative then -(value : Int) else value

/-- The integer that a scalar spells. -/
def int? (text : String) : Option Int :=
  intOf? text.toList

/-- The exponent part of a decimal, which is missing or complete. -/
def exponent? : List Char → Option Int
  | [] => some 0
  | c :: '+' :: digits => if c.toLower == 'e' then (natural? 10 digits).map Int.ofNat else none
  | c :: '-' :: digits =>
    if c.toLower == 'e' then (natural? 10 digits).map fun n => -(n : Int) else none
  | c :: digits => if c.toLower == 'e' then (natural? 10 digits).map Int.ofNat else none

/-- The float of a decimal without a sign; digits may be missing on one side of the point. -/
def decimal? (negative : Bool) (cs : List Char) : Option Float := do
  let whole := cs.takeWhile Char.isDigit
  let afterWhole := cs.dropWhile Char.isDigit
  let (fraction, left) :=
    match afterWhole with
    | '.' :: others => (others.takeWhile Char.isDigit, others.dropWhile Char.isDigit)
    | others => ([], others)
  let coefficient ← natural? 10 (whole ++ fraction)
  let exponent ← exponent? left
  let value := Decimal.nearestDecimal negative coefficient (exponent - fraction.length)
  if value.isInf then none else some value

/-- The float that a scalar spells. -/
def float? (text : String) : Option Float :=
  let cs := text.toList
  let unsigned := match cs with
    | '+' :: others => others
    | others => others
  let name := String.ofList unsigned
  if name == ".inf" || name == ".Inf" || name == ".INF" then some (Float.ofBits 0x7FF0000000000000)
  else if text == "-.inf" || text == "-.Inf" || text == "-.INF" then
    some (Float.ofBits 0xFFF0000000000000)
  else if text == ".nan" || text == ".NaN" || text == ".NAN" then
    some (Float.ofBits 0x7FF8000000000000)
  else
    match cs with
    | '+' :: '-' :: _ => none
    | '-' :: others => decimal? true others
    | _ => decimal? false unsigned

end ClientGen.Data.Plain

import Troupe.Decimal.Shortest

/-!
# Written decimal numbers

A `Numeral` is a decimal number as it is written: a sign, digits before and after a point, and
perhaps an exponent. `DecimalStyle` holds the decisions by which a binary64 number is written as a
numeral; the digits themselves are those of `Decimal.shortest`.
-/

namespace Troupe

/-- A decimal number as it is written. -/
structure Numeral where
  /-- Whether a minus sign stands in front. -/
  negative : Bool
  /-- The digits before the point. -/
  whole : List Char
  /-- The digits after the point; without any, there is no point. -/
  fraction : List Char
  /-- The power of ten after the mark of the exponent, if there is one. -/
  exponent : Option Int
deriving DecidableEq, Repr

namespace Numeral

/-- An integer in decimal digits. -/
def ofInt (n : Int) : Numeral where
  negative := n < 0
  whole := Nat.toDigits 10 n.natAbs
  fraction := []
  exponent := none

/-- An exponent as it is written: the mark, a sign in either case, and digits without padding. -/
def exponentText (exponent : Int) : List Char :=
  'e' :: (if exponent < 0 then '-' else '+') :: Nat.toDigits 10 exponent.natAbs

/-- The characters of a numeral. -/
def toChars (n : Numeral) : List Char :=
  (if n.negative then ['-'] else []) ++ n.whole
    ++ (if n.fraction.isEmpty then [] else '.' :: n.fraction)
    ++ (n.exponent.map exponentText).getD []

/-- The text of a numeral. -/
def toText (n : Numeral) : String := String.ofList n.toChars

end Numeral

/-- How a binary64 number is written. -/
structure DecimalStyle where
  /-- Which of two equally near shortest decimals is written. -/
  tie : Tie
  /-- Whether an integer is written with a point and a zero. -/
  pointZero : Bool
  /-- Whether a number whose leading digit has this power of ten is written without exponent. -/
  plain : Int → Bool

namespace DecimalStyle

/-- The digits after the point of an integer. -/
def integerFraction (style : DecimalStyle) : List Char := if style.pointZero then ['0'] else []

/-- A decimal with its point set among its digits, and zeros where there are too few of them. -/
def setPlain (style : DecimalStyle) (negative : Bool) (d : Decimal) : Numeral :=
  let digits := Nat.toDigits 10 d.digits
  let position := digits.length + d.exponent
  if 0 ≤ d.exponent then
    { negative, whole := digits ++ List.replicate d.exponent.toNat '0',
      fraction := style.integerFraction, exponent := none }
  else if 0 < position then
    { negative, whole := digits.take position.toNat, fraction := digits.drop position.toNat,
      exponent := none }
  else
    { negative, whole := ['0'], fraction := List.replicate (-position).toNat '0' ++ digits,
      exponent := none }

/-- A decimal with its point after the first digit and the power of ten that this takes. -/
def setExponent (negative : Bool) (d : Decimal) : Numeral :=
  let digits := Nat.toDigits 10 d.digits
  { negative, whole := digits.take 1, fraction := digits.drop 1,
    exponent := some (digits.length + d.exponent - 1) }

/-- A finite number as a numeral. -/
def numeral (style : DecimalStyle) (x : Binary64) : Numeral :=
  if x.magnitude = 0 then
    { negative := x.isNegative, whole := ['0'], fraction := style.integerFraction,
      exponent := none }
  else
    let d := Decimal.shortest style.tie x.magnitude
    if style.plain ((Nat.toDigits 10 d.digits).length + d.exponent - 1) then
      style.setPlain x.isNegative d
    else
      setExponent x.isNegative d

end DecimalStyle

/-- Numbers shown to people: the digits that identify them and never an exponent; an integer has no
point. -/
def displayStyle : DecimalStyle where
  tie := .awayFromZero
  pointZero := false
  plain := fun _ => true

/-- Any number as it is shown to people. -/
def Binary64.display (x : Binary64) : String :=
  if x.isNaN then "NaN"
  else if x.isFinite then (displayStyle.numeral x).toText
  else if x.isNegative then "-inf" else "inf"

end Troupe

import Troupe.Binary64.Basic

/-!
# Rounding to binary64

Every operation here is exact arithmetic followed by one rounding to the nearest binary64 number,
ties to the one whose magnitude is even. `Binary64.nearest` is that rounding for a quotient of
natural numbers; sums, products, quotients and square roots are exact numbers handed to it.
-/

namespace Troupe

/-- The integer nearest to a quotient; of two equally near ones the even one. -/
def roundHalfEven (numerator denominator : Nat) : Nat :=
  let quotient := numerator / denominator
  let twice := 2 * (numerator % denominator)
  if twice < denominator then quotient
  else if denominator < twice then quotient + 1
  else quotient + quotient % 2

namespace Binary64

/-- The magnitude nearest to a quotient. What lies too far above the greatest finite number gives
infinity.

The quotient is counted in units of `2 ^ (-1074)`. When that count has more than 53 binary digits,
the excess is dropped by rounding; each dropped digit raises the exponent by one, which is
`exponentUnit` in the magnitude, so a carry out of the significand needs no case of its own. -/
def nearest (numerator denominator : Nat) : Nat :=
  let scaled := numerator * unitsPerOne
  let excess := (scaled / denominator).log2 - 52
  min infinity (excess * exponentUnit + roundHalfEven scaled (denominator * Nat.pow 2 excess))

/-- The number nearest to a signed quotient. -/
def ofQuotient (negative : Bool) (numerator denominator : Nat) : Binary64 :=
  ofMagnitude negative (nearest numerator denominator)

/-- The number nearest to a natural number. -/
def ofNat (n : Nat) : Binary64 := ofQuotient false n 1

/-- The number nearest to an integer. -/
def ofInt (n : Int) : Binary64 := ofQuotient (n < 0) n.natAbs 1

/-- The product of two finite numbers. -/
def mul (x y : Binary64) : Binary64 :=
  ofQuotient (x.isNegative != y.isNegative) (x.units * y.units) (unitsPerOne * unitsPerOne)

/-- The quotient of two finite numbers, the second not zero. -/
def div (x y : Binary64) : Binary64 :=
  ofQuotient (x.isNegative != y.isNegative) x.units y.units

/-- The number nearest to the square root of a natural number.

The root is taken to sixty binary places. No binary64 number from one upward, and no midpoint of
two such, has that many places, so when the root is not exact any number strictly between this
truncation and the next rounds as the root does. -/
def sqrtOfNat (n : Nat) : Binary64 :=
  let scaled := n * Nat.pow 2 120
  let root := scaled.sqrt
  let inexact := if root * root = scaled then 0 else 1
  ofQuotient false (2 * root + inexact) (Nat.pow 2 61)

/-- The power of ten, rounded to the nearest number. -/
def powerOfTen (exponent : Nat) : Binary64 := ofNat (Nat.pow 10 exponent)

end Binary64

end Troupe

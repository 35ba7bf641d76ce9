import Troupe.Binary64.Rounding
import Troupe.Decimal.Numeral

/-!
# Numbers in documents

A number of a document is an integer when it is written without point and exponent and fits a
64-bit word, and a binary64 number otherwise. The binary64 number is found in two roundings: the
digits that fit an unsigned 64-bit word are rounded first, and the result is then multiplied or
divided by a power of ten. That keeps at least nineteen digits, and the last bit may differ from
that of a single rounding.
-/

namespace Troupe

/-- The value of a number in a document. -/
inductive Number where
  /-- An integer, from the least signed to the greatest unsigned 64-bit word. -/
  | integer (n : Int)
  /-- Any other number. -/
  | real (x : Binary64)
deriving DecidableEq, Repr

/-- Numbers in documents: the digits that identify them; without exponent from `10 ^ (-5)` up to
`10 ^ 16`, and with a point even when they are integers. -/
def documentStyle : DecimalStyle where
  tie := .toEven
  pointZero := true
  plain := fun power => -5 ≤ power && power < 16

namespace Numeral

/-- Appends digits to a number as long as it fits an unsigned 64-bit word, and returns it with the
digits that are left. -/
def appendFitting (n : Nat) : List Char → Nat × List Char
  | [] => (n, [])
  | digit :: rest =>
    let next := Nat.ofDigitChars 10 [digit] n
    if next < UInt64.size then appendFitting next rest else (n, digit :: rest)

/-- A number divided by a power of ten, by the greatest power of binary64 at a time. -/
def divideByPower (x : Binary64) (exponent : Nat) : Binary64 :=
  if exponent ≤ 308 then x.div (Binary64.powerOfTen exponent)
  else if x.magnitude = 0 then x
  else divideByPower (x.div (Binary64.powerOfTen 308)) (exponent - 308)
termination_by exponent
decreasing_by omega

/-- A natural number times a power of ten as a binary64 number, unless it is too large for one. -/
def scale? (n : Nat) (exponent : Int) : Option Binary64 :=
  let x := Binary64.ofNat n
  if n = 0 then some x
  else if exponent < 0 then some (divideByPower x (-exponent).toNat)
  else if 308 < exponent then none
  else
    let product := x.mul (Binary64.powerOfTen exponent.toNat)
    if product.isFinite then some product else none

/-- The binary64 number that a numeral is read as, unless it is too large for one. -/
def toBinary64? (n : Numeral) : Option Binary64 :=
  let (whole, wholeLeft) := appendFitting 0 n.whole
  let (digits, fractionLeft) := appendFitting whole n.fraction
  let exponent := n.exponent.getD 0 + wholeLeft.length - (n.fraction.length - fractionLeft.length)
  (scale? digits exponent).map fun x => if n.negative then x.neg else x

/-- The integer that a numeral is read as, if it is one. Minus zero is none. -/
def toInteger? (n : Numeral) : Option Int :=
  let size := Nat.ofDigitChars 10 n.whole 0
  if !n.fraction.isEmpty || n.exponent.isSome then none
  else if n.negative then
    if 0 < size ∧ Int64.minValue.toInt ≤ -size then some (-size) else none
  else
    if size < UInt64.size then some size else none

/-- The value of a numeral, unless it is too large for a number. -/
def value? (n : Numeral) : Option Number :=
  match n.toInteger? with
  | some i => some (.integer i)
  | none => n.toBinary64?.map .real

end Numeral

end Troupe

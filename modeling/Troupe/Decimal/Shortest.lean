import Troupe.Binary64.Basic

/-!
# The fewest digits that read back

A binary64 number is the nearest one to every real between the midpoints on its two sides, and a
decimal that lies there reads back as that number. `Decimal.shortest` finds the decimal with the
fewest digits that does, and among those the one nearest to the number.

All comparisons are between natural numbers: a finite magnitude is a count of units of
`2 ^ (-1074)`, and a decimal is compared with such a count by multiplying out.
-/

namespace Troupe

/-- Which of two decimals is taken when a number lies exactly between them. -/
inductive Tie where
  /-- The one whose last digit is even. -/
  | toEven
  /-- The one farther from zero. -/
  | awayFromZero
deriving DecidableEq, Repr

/-- The number `digits * 10 ^ exponent`. -/
structure Decimal where
  /-- The significant digits, read as one number. -/
  digits : Nat
  /-- The power of ten they are multiplied by. -/
  exponent : Int
deriving DecidableEq, Repr

namespace Decimal

/-- The numerator of a decimal in units of `2 ^ (-1074)`. -/
def scaled (d : Decimal) : Nat := d.digits * Nat.pow 10 d.exponent.toNat * Binary64.unitsPerOne

/-- The denominator that goes with `Decimal.scaled`. -/
def scale (exponent : Int) : Nat := Nat.pow 10 (-exponent).toNat

/-- Whether a decimal lies between the midpoints beside a magnitude, which themselves belong to it
when it is even. -/
def readsBackAs (d : Decimal) (magnitude : Nat) : Bool :=
  let twice := 2 * d.scaled
  let lower := (Binary64.unitsOf (magnitude - 1) + Binary64.unitsOf magnitude) * scale d.exponent
  let upper := (Binary64.unitsOf magnitude + Binary64.unitsOf (magnitude + 1)) * scale d.exponent
  if magnitude % 2 = 0 then lower ≤ twice && twice ≤ upper else lower < twice && twice < upper

/-- The decimal on the grid of multiples of `10 ^ exponent` that reads back as a magnitude, if there
is one. Only the two neighbours of the magnitude on that grid need to be looked at. -/
def onGrid? (tie : Tie) (magnitude : Nat) (exponent : Int) : Option Decimal :=
  let numerator := Binary64.unitsOf magnitude * scale exponent
  let denominator := Binary64.unitsPerOne * Nat.pow 10 exponent.toNat
  let below := numerator / denominator
  let low : Decimal := ⟨below, exponent⟩
  let high : Decimal := ⟨below + 1, exponent⟩
  match low.readsBackAs magnitude, high.readsBackAs magnitude with
  | false, false => none
  | true, false => some low
  | false, true => some high
  | true, true =>
    let nearness := compare (2 * numerator) ((2 * below + 1) * denominator)
    let takeLow := match nearness, tie with
      | .lt, _ => true
      | .gt, _ => false
      | .eq, .awayFromZero => false
      | .eq, .toEven => below % 2 = 0
    some (if takeLow then low else high)

/-- The least exponent whose power of ten exceeds a positive finite magnitude.

The least positive number exceeds `10 ^ (-324)`, so a magnitude multiplied by `10 ^ 324` has as many
digits as its whole part. -/
def pointPosition (magnitude : Nat) : Int :=
  let whole := Binary64.unitsOf magnitude * Nat.pow 10 324 / Binary64.unitsPerOne
  (Nat.toDigits 10 whole).length - 324

/-- The same number without zeros at the end of its digits. At most `limit` of them are dropped. -/
def dropZeros (limit : Nat) (d : Decimal) : Decimal :=
  match limit with
  | 0 => d
  | limit + 1 =>
    if d.digits ≠ 0 ∧ d.digits % 10 = 0 then dropZeros limit ⟨d.digits / 10, d.exponent + 1⟩ else d

/-- The decimal with the fewest digits that reads back as a positive finite magnitude.

Seventeen digits distinguish any two numbers. The last alternative, the magnitude itself as a
decimal, keeps the result right without that fact. -/
def shortest (tie : Tie) (magnitude : Nat) : Decimal :=
  let position := pointPosition magnitude
  let found := (List.range 17).findSome? fun (n : Nat) => onGrid? tie magnitude (position - n - 1)
  let exact : Decimal := ⟨Binary64.unitsOf magnitude * Nat.pow 5 1074, -1074⟩
  dropZeros 1100 (found.getD exact)

end Decimal

end Troupe

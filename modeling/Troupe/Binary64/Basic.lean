/-!
# Binary64 numbers

A number of the 64-bit binary interchange format, held as its word. Finite numbers are whole
multiples of the least positive one, `2 ^ (-1074)`, so exact arithmetic on them is arithmetic on
natural numbers: `Binary64.units` counts those multiples. Comparison and truncation are defined
through that count and through the word; no machine floating-point operation is used.
-/

namespace Troupe

/-- A binary64 number, given by its 64-bit word. -/
structure Binary64 where
  /-- The word: one sign bit, eleven exponent bits, fifty-two fraction bits. -/
  bits : UInt64
deriving DecidableEq, Repr, Inhabited

namespace Binary64

/-- What the sign bit counts in a word. -/
def signUnit : Nat := 0x8000000000000000

/-- What one step of the exponent counts in a word: one more than the greatest fraction. -/
def exponentUnit : Nat := 0x10000000000000

/-- The magnitude of an infinity: every magnitude below it is finite, every one above a NaN. -/
def infinity : Nat := 2047 * exponentUnit

/-- The word without its sign bit. Magnitudes are ordered as the absolute values they stand for. -/
def magnitude (x : Binary64) : Nat := x.bits.toNat % signUnit

/-- Whether the sign bit is set. -/
def isNegative (x : Binary64) : Bool := signUnit ≤ x.bits.toNat

/-- Whether the word stands for no number at all. -/
def isNaN (x : Binary64) : Bool := infinity < x.magnitude

/-- Whether the word stands for a number and not for an infinity. -/
def isFinite (x : Binary64) : Bool := x.magnitude < infinity

/-- The number with the given sign and magnitude. -/
def ofMagnitude (negative : Bool) (magnitude : Nat) : Binary64 :=
  ⟨UInt64.ofNat (magnitude % signUnit + if negative then signUnit else 0)⟩

/-- The number with the opposite sign. -/
def neg (x : Binary64) : Binary64 := ofMagnitude (!x.isNegative) x.magnitude

/-- How many times `2 ^ (-1074)` a finite magnitude contains. -/
def unitsOf (magnitude : Nat) : Nat :=
  match magnitude / exponentUnit with
  | 0 => magnitude % exponentUnit
  | exponent + 1 => (exponentUnit + magnitude % exponentUnit) * Nat.pow 2 exponent

/-- The absolute value of a finite number in units of `2 ^ (-1074)`. -/
def units (x : Binary64) : Nat := unitsOf x.magnitude

/-- The number of units in one. -/
def unitsPerOne : Nat := Nat.pow 2 1074

/-- A finite number rounded toward zero to an integer. -/
def trunc (x : Binary64) : Int :=
  let whole : Int := x.units / unitsPerOne
  if x.isNegative then -whole else whole

/-- Where a number stands in the order. Both zeros stand at the same place. -/
def rank (x : Binary64) : Int :=
  if x.isNegative then -x.magnitude else x.magnitude

/-- One number is less than another when neither is a NaN and it stands before the other. -/
instance : LT Binary64 where
  lt x y := x.isNaN = false ∧ y.isNaN = false ∧ x.rank < y.rank

/-- Whether one number is less than another is told by their words. -/
instance (x y : Binary64) : Decidable (x < y) :=
  inferInstanceAs (Decidable (_ ∧ _ ∧ _))

/-- The order of numbers, spelled out. -/
theorem lt_iff {x y : Binary64} :
    x < y ↔ x.isNaN = false ∧ y.isNaN = false ∧ x.rank < y.rank := Iff.rfl

end Binary64

end Troupe

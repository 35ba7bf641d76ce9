import Troupe.Wide

/-!
# Headings

A heading is a whole number of degrees, counted clockwise, of which only the remainder by a full
turn matters. A turn is added in wide words, and then the remainder is taken; there is room enough
for a turn by any 64-bit word.
-/

namespace Troupe

/-- A direction in degrees. -/
structure Heading where
  /-- The degrees, less than a full turn. -/
  degrees : Fin 360
deriving DecidableEq, Repr, Inhabited

namespace Heading

/-- The heading of a number of degrees. -/
def ofInt (n : Int) : Heading := ⟨Fin.ofNat 360 (n % 360).toNat⟩

/-- The degrees of a heading. -/
def toInt (h : Heading) : Int := h.degrees.val

/-- The degrees of a heading in a wide word. -/
def toWide (h : Heading) : Wide where
  toInt := h.toInt
  least_le := Int.le_trans (by decide) (Int.natCast_nonneg _)
  le_greatest := Int.le_trans (Int.ofNat_le.2 (Nat.le_of_lt h.degrees.isLt)) (by decide)

/-- The heading after a clockwise turn. -/
def turn (h : Heading) (angle : Int64) : Except Fault Heading := do
  let sum ← h.toWide.add (.ofInt64 angle)
  .ok (.ofInt sum.toInt)

/-- The heading after a counter-clockwise turn. -/
def turnLeft (h : Heading) (angle : Int64) : Except Fault Heading := do
  let difference ← h.toWide.sub (.ofInt64 angle)
  .ok (.ofInt difference.toInt)

/-- The heading of a number of degrees is what is left of them after full turns. -/
@[simp] theorem toInt_ofInt (n : Int) : (ofInt n).toInt = n % 360 := by
  simp only [toInt, ofInt, Fin.val_ofNat]
  omega

/-- No turn by a 64-bit word leaves the wide words. -/
theorem turn_eq_ok (h : Heading) (angle : Int64) :
    h.turn angle = .ok (.ofInt (h.toInt + angle.toInt)) := by
  have degrees := h.degrees.isLt
  have low := angle.le_toInt
  have high := angle.toInt_lt
  have sum : h.toWide.add (.ofInt64 angle) = .ok _ := Wide.ofInt_eq_ok
    (by simp only [toWide, toInt, Wide.toInt_ofInt64, Wide.least]; omega)
    (by simp only [toWide, toInt, Wide.toInt_ofInt64, Wide.greatest]; omega)
  rw [turn, sum]
  rfl

/-- No counter-clockwise turn by a 64-bit word leaves the wide words. -/
theorem turnLeft_eq_ok (h : Heading) (angle : Int64) :
    h.turnLeft angle = .ok (.ofInt (h.toInt - angle.toInt)) := by
  have degrees := h.degrees.isLt
  have low := angle.le_toInt
  have high := angle.toInt_lt
  have difference : h.toWide.sub (.ofInt64 angle) = .ok _ := Wide.ofInt_eq_ok
    (by simp only [toWide, toInt, Wide.toInt_ofInt64, Wide.least]; omega)
    (by simp only [toWide, toInt, Wide.toInt_ofInt64, Wide.greatest]; omega)
  rw [turnLeft, difference]
  rfl

end Heading

end Troupe

import Troupe.Binary64.Rounding

/-!
# Positions and distances

Positions have signed 64-bit coordinates. Distances are binary64 numbers: coordinates are rounded to
binary64 before they are subtracted, the difference is rounded again, and the square root of the
exact sum of the squares is rounded once more. Each of these steps is exact for coordinates of small
size.
-/

namespace Troupe

/-- A point of the stage. -/
structure Position where
  /-- The first coordinate. -/
  x : Int64
  /-- The second coordinate. -/
  y : Int64
deriving DecidableEq, Repr, Inhabited

namespace Position

/-- An integer rounded to the nearest one that is a binary64 number. -/
def roundCoordinate (n : Int) : Int := (Binary64.ofInt n).trunc

/-- The difference of two coordinates. -/
def difference (a b : Int64) : Int :=
  roundCoordinate (roundCoordinate a.toInt - roundCoordinate b.toInt)

/-- The distance between two positions. -/
def distance (p q : Position) : Binary64 :=
  let dx := (difference p.x q.x).natAbs
  let dy := (difference p.y q.y).natAbs
  Binary64.sqrtOfNat (dx * dx + dy * dy)

/-- A position shifted along the first axis, as far as coordinates go. -/
def shift (p : Position) (distance : Int64) : Position :=
  { p with x := .ofIntClamp (p.x.toInt + distance.toInt) }

end Position

end Troupe

import Mathlib.Data.Nat.Sqrt
import Mathlib.Tactic.Linarith
import Troupe.Encounter
import Troupe.Proofs.Binary64.Rounding

/-!
# How exactly distances are compared

A distance is rounded four times: both coordinates, their difference, and the square root. For a
radius that is a natural number up to `33554432`, the last two make no difference: a root that lies
below the radius lies so far below it that it cannot be rounded to it, and a difference that is
rounded at all is beyond it. What is left is the rounding of the coordinates
(`Encounter.meets_iff_rounded_coordinates_near`). Up to `9007199254740992` coordinates are not
rounded; beyond, two sprites may meet that are as far from each other as the radius, or farther.
-/

namespace Troupe

/-! ## The root -/

namespace Binary64

variable {n r : Nat}

/-- One, counted in the sixty binary places that a square root is taken to. -/
def places : Nat := 1152921504606846976

/-- Numbers whose squares are far apart are not near each other, up to a bound. -/
theorem add_lt_of_mul_self_add_le {root radius : Nat} (bound : radius ≤ 33554432 * places)
    (apart : root * root + places * places ≤ radius * radius) : root + 8589934592 < radius := by
  rw [places] at bound apart
  have less : root < radius := Nat.mul_self_lt_mul_self_iff.1 (by omega)
  refine Nat.lt_of_not_le fun near => ?_
  have squares := Nat.mul_le_mul near near
  have parts : (root + 8589934592) * (root + 8589934592) =
      root * root + 17179869184 * root + 73786976294838206464 := by ring
  omega

/-- A root below a radius is more than `2 ^ (-27)` below it. -/
theorem sqrt_lt_of_lt (small : r ≤ 33554432) (below : n < r * r) :
    (n * (places * places)).sqrt + 8589934592 < r * places := by
  have square := Nat.sqrt_le (n * (places * places))
  refine add_lt_of_mul_self_add_le (Nat.mul_le_mul_right places small) ?_
  calc _ ≤ n * (places * places) + places * places := Nat.add_le_add_right square _
    _ = (n + 1) * (places * places) := (Nat.succ_mul _ _).symm
    _ ≤ r * r * (places * places) := Nat.mul_le_mul_right _ below
    _ = r * places * (r * places) := by ring

/-- A root of no less than the square of a radius is no less than the radius. -/
theorem le_sqrt_of_le (reached : r * r ≤ n) : r * places ≤ (n * (places * places)).sqrt := by
  refine Nat.le_sqrt.2 ?_
  calc r * places * (r * places) = r * r * (places * places) := by ring
    _ ≤ n * (places * places) := Nat.mul_le_mul_right _ reached

/-- A quotient that is at least `2 ^ (-27)` below a radius is rounded to a number below it. -/
theorem nearest_lt_nearest {m d : Nat} (positive : 0 < d) (nonzero : 0 < r)
    (small : r ≤ 33554432) (below : m * 134217728 ≤ (r * 134217728 - 1) * d) :
    nearest m d < nearest r 1 := by
  obtain ⟨places, many, few, power⟩ := exists_unitsPerOne
  have enough : 27 ≤ places := Nat.le_trans (by decide) many
  obtain ⟨fewer, rfl⟩ := Nat.exists_eq_add_of_le' enough
  have parts : unitsPerOne = Nat.pow 2 fewer * 134217728 := power.trans (two_pow_add fewer 27)
  refine Nat.lt_of_le_of_lt (nearest_mono positive (by decide) below) ?_
  -- The number just below the radius has few enough digits not to be rounded either.
  have units : unitsOf (nearest (r * 134217728 - 1) 134217728) =
      (r * 134217728 - 1) * Nat.pow 2 fewer :=
    unitsOf_nearest rfl (by omega) (by decide) (by rw [exponentUnit]; omega)
      (by rw [parts, Nat.mul_assoc])
  rw [← unitsOf_strictMono.lt_iff_lt, units, unitsOf_nearest_of_le (by omega), parts]
  calc (r * 134217728 - 1) * Nat.pow 2 fewer < r * 134217728 * Nat.pow 2 fewer :=
        Nat.mul_lt_mul_of_pos_right (by omega) (two_pow_pos fewer)
    _ = r * (Nat.pow 2 fewer * 134217728) := by ring

/-- The square root of a number is rounded to a number below a radius just when the number is below
the square of the radius. -/
theorem sqrtOfNat_lt_ofNat (small : r ≤ 33554432) : sqrtOfNat n < ofNat r ↔ n < r * r := by
  obtain ⟨odd, bit, rounded⟩ : ∃ odd ≤ 1, sqrtOfNat n =
      ofQuotient false (2 * (n * (places * places)).sqrt + odd) (2 * places) := by
    have square : Nat.pow 2 120 = places * places := by decide
    have double : Nat.pow 2 61 = 2 * places := by decide
    rw [sqrtOfNat, square, double]
    refine ⟨_, ?_, rfl⟩
    split <;> decide
  rw [rounded, ofNat, ofQuotient_lt_ofQuotient]
  constructor
  · have enough (reached : r * r ≤ n) :
        r * (2 * places) ≤ (2 * (n * (places * places)).sqrt + odd) * 1 := by
      calc r * (2 * places) = 2 * (r * places) := by ring
        _ ≤ 2 * (n * (places * places)).sqrt := Nat.mul_le_mul_left 2 (le_sqrt_of_le reached)
        _ ≤ (2 * (n * (places * places)).sqrt + odd) * 1 := by
          rw [Nat.mul_one]
          exact Nat.le_add_right _ _
    exact fun less => Nat.lt_of_not_le fun reached =>
      Nat.not_le.2 less (nearest_mono Nat.one_pos (by decide) (enough reached))
  · intro below
    have nonzero : 0 < r := Nat.pos_of_ne_zero (by rintro rfl; exact Nat.not_lt_zero n below)
    have root := sqrt_lt_of_lt small below
    have apart : (2 * (n * (places * places)).sqrt + odd) * 134217728 ≤
        (r * 134217728 - 1) * (2 * places) := by
      generalize (n * (places * places)).sqrt = root at root ⊢
      rw [places] at root ⊢
      omega
    exact nearest_lt_nearest (by decide) nonzero small apart

end Binary64

/-! ## Coordinates -/

namespace Position

open Binary64

/-- A coordinate is rounded like its absolute value. -/
theorem natAbs_roundCoordinate (n : Int) : (roundCoordinate n).natAbs = roundNat n.natAbs := by
  rw [roundCoordinate, trunc_ofInt]
  split <;> omega

/-- Coordinates up to `9007199254740992` on either side are not rounded. -/
theorem roundCoordinate_of_le {n : Int} (small : n.natAbs ≤ 9007199254740992) :
    roundCoordinate n = n := by
  rw [roundCoordinate, trunc_ofInt, roundNat_of_le small]
  split <;> omega

/-- The difference of two coordinates is rounded like its absolute value. -/
theorem natAbs_difference (a b : Int64) :
    (difference a b).natAbs =
      roundNat (roundCoordinate a.toInt - roundCoordinate b.toInt).natAbs :=
  natAbs_roundCoordinate _

/-- The coordinates of a position. -/
def coordinates (p : Position) : Int × Int := (p.x.toInt, p.y.toInt)

/-- The coordinates of a position after they were rounded. -/
def roundedCoordinates (p : Position) : Int × Int :=
  (roundCoordinate p.x.toInt, roundCoordinate p.y.toInt)

/-- Both coordinates are at most `9007199254740992` on either side. -/
def IsSmall (p : Position) : Prop :=
  p.x.toInt.natAbs ≤ 9007199254740992 ∧ p.y.toInt.natAbs ≤ 9007199254740992

/-- Whether a position is small is told by its coordinates. -/
instance (p : Position) : Decidable p.IsSmall := inferInstanceAs (Decidable (_ ∧ _))

/-- Small coordinates are not rounded. -/
theorem IsSmall.roundedCoordinates_eq {p : Position} (small : p.IsSmall) :
    p.roundedCoordinates = p.coordinates :=
  Prod.ext (roundCoordinate_of_le small.1) (roundCoordinate_of_le small.2)

/-- The square of the exact distance between two points. -/
def squareDistance (a b : Int × Int) : Int :=
  (a.1 - b.1) * (a.1 - b.1) + (a.2 - b.2) * (a.2 - b.2)

/-- The square of a distance is the same in both directions. -/
theorem squareDistance_comm (a b : Int × Int) : squareDistance a b = squareDistance b a := by
  rw [squareDistance, squareDistance]
  ring

/-- It is a sum of squares of natural numbers. -/
theorem squareDistance_eq (a b : Int × Int) :
    squareDistance a b = ((a.1 - b.1).natAbs * (a.1 - b.1).natAbs +
      (a.2 - b.2).natAbs * (a.2 - b.2).natAbs : Nat) := by
  simp only [squareDistance, Int.natCast_add, Int.natAbs_mul_self]

/-- Small numbers are not rounded, and the squares of others are beyond any radius, rounded or
not. -/
theorem add_roundNat_lt_iff {a b r : Nat} (small : r ≤ 33554432) :
    roundNat a * roundNat a + roundNat b * roundNat b < r * r ↔ a * a + b * b < r * r := by
  have radius : r * r ≤ 33554432 * 33554432 := Nat.mul_le_mul small small
  have beyond {c : Nat} (large : 9007199254740992 < c) :
      r * r ≤ c * c ∧ r * r ≤ roundNat c * roundNat c := by
    have rounded : 9007199254740992 ≤ roundNat c :=
      roundNat_of_le (Nat.le_refl 9007199254740992) ▸ roundNat_mono (Nat.le_of_lt large)
    have exact := Nat.mul_le_mul large.le large.le
    have rounded := Nat.mul_le_mul rounded rounded
    omega
  obtain first | first := Nat.lt_or_ge 9007199254740992 a
  · have := beyond first
    omega
  obtain second | second := Nat.lt_or_ge 9007199254740992 b
  · have := beyond second
    omega
  rw [roundNat_of_le first, roundNat_of_le second]

end Position

namespace Encounter

open Position

variable {r : Nat} {p q : Position}

/-- Two positions meet when their rounded coordinates are closer than the radius. -/
theorem meets_iff (small : r ≤ 33554432) :
    meets (.ofNat r) p q = true ↔
      squareDistance p.roundedCoordinates q.roundedCoordinates < r * r := by
  rw [meets, decide_eq_true_eq, distance, Binary64.sqrtOfNat_lt_ofNat small, natAbs_difference,
    natAbs_difference, add_roundNat_lt_iff small, squareDistance_eq]
  exact Int.ofNat_lt.symm

/-- For a radius that is a natural number up to `33554432`, two positions meet just when their
rounded coordinates are closer than the radius. Small coordinates are not rounded, so small
positions meet just when they are closer than the radius themselves; no position that is exactly
that far meets. Who meets is met. -/
theorem meets_iff_rounded_coordinates_near (r : Nat) (small : r ≤ 33554432) :
    (∀ p q, meets (.ofNat r) p q = true ↔
      squareDistance p.roundedCoordinates q.roundedCoordinates < r * r) ∧
    (∀ p q, p.IsSmall → q.IsSmall →
      (meets (.ofNat r) p q = true ↔ squareDistance p.coordinates q.coordinates < r * r)) ∧
    ∀ p q, meets (.ofNat r) p q = meets (.ofNat r) q p := by
  refine ⟨fun p q => meets_iff small, fun p q near near' => ?_, fun p q => ?_⟩
  · rw [meets_iff small, near.roundedCoordinates_eq, near'.roundedCoordinates_eq]
  · rw [Bool.eq_iff_iff, meets_iff small, meets_iff small, squareDistance_comm]

/-- Of two positions around another one, one is exactly at the radius and the other a little
closer. -/
theorem meets_iff_rounded_coordinates_near_twenty :
    let p : Position := ⟨-6, 8⟩
    let q : Position := ⟨6, 24⟩
    let q' : Position := ⟨6, 23⟩
    20 ≤ 33554432 ∧ p.IsSmall ∧ q.IsSmall ∧ q'.IsSmall ∧
      squareDistance p.coordinates q.coordinates = 20 * 20 ∧
      meets (.ofNat 20) p q = false ∧ meets (.ofNat 20) p q' = true := by
  intro p q q'
  have small : 20 ≤ 33554432 := by decide
  have places : p.IsSmall ∧ q.IsSmall ∧ q'.IsSmall := by decide
  have exact := (meets_iff_rounded_coordinates_near 20 small).2.1
  refine ⟨small, places.1, places.2.1, places.2.2, by decide, ?_, ?_⟩
  · rw [Bool.eq_false_iff, Ne, exact p q places.1 places.2.1]
    decide
  · rw [exact p q' places.1 places.2.2]
    decide

/-- Large coordinates are rounded: two positions that are `500` apart meet within a radius of
`20`. -/
theorem meets_beyond_radius :
    ¬∀ (r : Nat) (p q : Position), 1 ≤ r → r ≤ 33554432 →
      (meets (.ofNat r) p q = true ↔ squareDistance p.coordinates q.coordinates < r * r) := by
  intro exact
  have same := exact 20 ⟨4611686018427388404, 0⟩ ⟨4611686018427387904, 0⟩ (by decide) (by decide)
  have met : meets (.ofNat 20) ⟨4611686018427388404, 0⟩ ⟨4611686018427387904, 0⟩ = true := by
    decide +kernel
  exact absurd (same.1 met) (by decide)

end Encounter

end Troupe

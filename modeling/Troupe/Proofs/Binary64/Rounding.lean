import Mathlib.Order.Monotone.Basic
import Mathlib.Tactic.Ring
import Troupe.Binary64.Rounding

/-!
# Rounding keeps the order

Magnitudes are ordered as the numbers of units that they stand for, so an order between exact
quotients is kept when both are rounded (`Binary64.nearest_mono`), and a quotient that is the number
of units of a magnitude is rounded to this magnitude (`Binary64.nearest_of_units`). Together they
tell where a rounded number stands without its digits.
-/

namespace Troupe

/-! ## Nearest integers -/

section RoundHalfEven

variable {n n' d d' : Nat}

/-- Rounding goes up by one at most. -/
theorem roundHalfEven_le (n d : Nat) : roundHalfEven n d ≤ n / d + 1 := by
  unfold roundHalfEven
  dsimp only
  split
  · omega
  · split <;> omega

/-- Rounding does not go below what is whole. -/
theorem le_roundHalfEven (n d : Nat) : n / d ≤ roundHalfEven n d := by
  unfold roundHalfEven
  dsimp only
  split
  · omega
  · split <;> omega

/-- A whole quotient is not rounded. -/
theorem roundHalfEven_mul (k : Nat) (positive : 0 < d) : roundHalfEven (k * d) d = k := by
  have whole : k * d / d = k := Nat.mul_div_cancel k positive
  have rest : k * d % d = 0 := Nat.mul_mod_left k d
  simp only [roundHalfEven, whole, rest, Nat.mul_zero, if_pos positive]

/-- Of two quotients, what is whole in the smaller one is so in the other one. -/
theorem div_le_div_of_mul_le (positive : 0 < d) (positive' : 0 < d') (le : n * d' ≤ n' * d) :
    n / d ≤ n' / d' := by
  have scaled : n / d * d' * d ≤ n' * d := by
    calc n / d * d' * d = n / d * d * d' := by ring
      _ ≤ n * d' := Nat.mul_le_mul_right d' (Nat.div_mul_le_self n d)
      _ ≤ n' * d := le
  exact (Nat.le_div_iff_mul_le positive').2 (Nat.le_of_mul_le_mul_right scaled positive)

/-- Rounding keeps the order of quotients. -/
theorem roundHalfEven_mono (positive : 0 < d) (positive' : 0 < d') (le : n * d' ≤ n' * d) :
    roundHalfEven n d ≤ roundHalfEven n' d' := by
  obtain apart | same := Nat.lt_or_eq_of_le (div_le_div_of_mul_le positive positive' le)
  · exact Nat.le_trans (roundHalfEven_le n d) (Nat.le_trans apart (le_roundHalfEven n' d'))
  -- What is whole is the same, so the fractions are in order, and so are their doubles.
  have rests : n % d * d' ≤ n' % d' * d := by
    have split : n * d' = n / d * (d * d') + n % d * d' := by
      rw [← Nat.mul_assoc, ← Nat.add_mul, Nat.div_add_mod']
    have split' : n' * d = n / d * (d * d') + n' % d' * d := by
      rw [same, Nat.mul_comm d d', ← Nat.mul_assoc, ← Nat.add_mul, Nat.div_add_mod']
    omega
  have half (reached : d ≤ 2 * (n % d)) : d' ≤ 2 * (n' % d') := by
    refine Nat.le_of_mul_le_mul_right ?_ positive
    calc d' * d = d * d' := Nat.mul_comm d' d
      _ ≤ 2 * (n % d) * d' := Nat.mul_le_mul_right d' reached
      _ = 2 * (n % d * d') := Nat.mul_assoc 2 _ d'
      _ ≤ 2 * (n' % d' * d) := Nat.mul_le_mul_left 2 rests
      _ = 2 * (n' % d') * d := (Nat.mul_assoc 2 _ d).symm
  have beyond (passed : d < 2 * (n % d)) : d' < 2 * (n' % d') := by
    refine Nat.lt_of_mul_lt_mul_right (a := d) ?_
    calc d' * d = d * d' := Nat.mul_comm d' d
      _ < 2 * (n % d) * d' := Nat.mul_lt_mul_of_pos_right passed positive'
      _ = 2 * (n % d * d') := Nat.mul_assoc 2 _ d'
      _ ≤ 2 * (n' % d' * d) := Nat.mul_le_mul_left 2 rests
      _ = 2 * (n' % d') * d := (Nat.mul_assoc 2 _ d).symm
  unfold roundHalfEven
  dsimp only
  rw [← same]
  obtain below | reached := Nat.lt_or_ge (2 * (n % d)) d
  · rw [if_pos below]
    split
    · exact Nat.le_refl _
    · split <;> omega
  · rw [if_neg (Nat.not_lt.2 reached), if_neg (Nat.not_lt.2 (half reached))]
    obtain exact | passed := Nat.eq_or_lt_of_le reached
    · rw [if_neg (by omega)]
      split <;> omega
    · rw [if_pos passed, if_pos (beyond passed)]

/-- Rounding does not pass a whole number from below. -/
theorem roundHalfEven_le_of_le_mul {k : Nat} (positive : 0 < d) (le : n ≤ k * d) :
    roundHalfEven n d ≤ k := by
  have ordered : roundHalfEven n d ≤ roundHalfEven (k * 1) 1 :=
    roundHalfEven_mono positive Nat.one_pos (by rwa [Nat.mul_one, Nat.mul_one])
  rwa [roundHalfEven_mul k Nat.one_pos] at ordered

/-- Rounding does not pass a whole number from above. -/
theorem le_roundHalfEven_of_mul_le {k : Nat} (positive : 0 < d) (le : k * d ≤ n) :
    k ≤ roundHalfEven n d := by
  have ordered : roundHalfEven (k * 1) 1 ≤ roundHalfEven n d :=
    roundHalfEven_mono Nat.one_pos positive (by rwa [Nat.mul_one, Nat.mul_one])
  rwa [roundHalfEven_mul k Nat.one_pos] at ordered

end RoundHalfEven

namespace Binary64

/-! ## Units -/

/-- A power of two with a sum for its exponent is a product. -/
theorem two_pow_add (m n : Nat) : Nat.pow 2 (m + n) = Nat.pow 2 m * Nat.pow 2 n := Nat.pow_add 2 m n

/-- No power of two is zero. -/
theorem two_pow_pos (n : Nat) : 0 < Nat.pow 2 n := Nat.two_pow_pos n

/-- The number of units in one is a power of two. Its exponent is kept out of sight, so that the
power is not computed. -/
theorem exists_unitsPerOne : ∃ places, 52 ≤ places ∧ places < 2000 ∧
    unitsPerOne = Nat.pow 2 places := by
  unfold unitsPerOne
  generalize exponent : 1074 = places
  exact ⟨places, by omega, by omega, rfl⟩

/-- There is a unit in one. -/
theorem unitsPerOne_pos : 0 < unitsPerOne := by
  obtain ⟨places, -, -, power⟩ := exists_unitsPerOne
  rw [power]
  exact two_pow_pos places

/-- Twice a power of two is the next one. -/
theorem two_mul_eq_of_eq {unit n : Nat} (power : unit = Nat.pow 2 n) :
    2 * unit = Nat.pow 2 (n + 1) := by
  rw [power]
  exact Nat.mul_comm 2 _

/-- The units of a magnitude that has an exponent, told by its fraction. -/
theorem unitsOf_of_div {magnitude exponent : Nat}
    (whole : magnitude / exponentUnit = exponent + 1) :
    unitsOf magnitude = (exponentUnit + magnitude % exponentUnit) * Nat.pow 2 exponent := by
  rw [unitsOf, whole]

/-- The number of units of a magnitude with a given exponent. -/
theorem unitsOf_add (exponent : Nat) {fraction : Nat} (bound : fraction < exponentUnit) :
    unitsOf ((exponent + 1) * exponentUnit + fraction) =
      (exponentUnit + fraction) * Nat.pow 2 exponent := by
  have whole : ((exponent + 1) * exponentUnit + fraction) / exponentUnit = exponent + 1 := by
    rw [Nat.add_comm, Nat.add_mul_div_right _ _ (by decide), Nat.div_eq_of_lt bound, Nat.zero_add]
  have rest : ((exponent + 1) * exponentUnit + fraction) % exponentUnit = fraction := by
    rw [Nat.mul_add_mod', Nat.mod_eq_of_lt bound]
  rw [unitsOf_of_div whole, rest]

/-- A magnitude without exponent is its own number of units. -/
theorem unitsOf_of_lt {magnitude : Nat} (small : magnitude < exponentUnit) :
    unitsOf magnitude = magnitude := by
  simp only [unitsOf, Nat.div_eq_of_lt small, Nat.mod_eq_of_lt small]

/-- A magnitude has an exponent, or is small. -/
theorem exists_fields (magnitude : Nat) :
    magnitude < exponentUnit ∨ ∃ exponent fraction, fraction < exponentUnit ∧
      magnitude = (exponent + 1) * exponentUnit + fraction := by
  obtain small | large := Nat.lt_or_ge magnitude exponentUnit
  · exact .inl small
  · refine .inr ⟨magnitude / exponentUnit - 1, magnitude % exponentUnit,
      Nat.mod_lt _ (by decide), ?_⟩
    rw [exponentUnit] at large ⊢
    omega

/-- Magnitudes are ordered as their numbers of units. -/
theorem unitsOf_strictMono : StrictMono unitsOf := by
  refine strictMono_nat_of_lt_succ fun magnitude => ?_
  obtain small | ⟨exponent, fraction, bound, rfl⟩ := exists_fields magnitude
  · obtain next | last : magnitude + 1 < exponentUnit ∨
        magnitude + 1 = (0 + 1) * exponentUnit + 0 := by omega
    · rw [unitsOf_of_lt small, unitsOf_of_lt next]
      exact Nat.lt_succ_self magnitude
    · rw [unitsOf_of_lt small, last, unitsOf_add 0 (by decide)]
      exact Nat.lt_of_lt_of_eq small (Nat.mul_one exponentUnit).symm
  · have positive : 0 < Nat.pow 2 exponent := two_pow_pos exponent
    rw [unitsOf_add exponent bound]
    obtain next | last : fraction + 1 < exponentUnit ∨ fraction + 1 = exponentUnit := by omega
    · rw [Nat.add_assoc, unitsOf_add exponent next]
      exact Nat.mul_lt_mul_of_pos_right (by omega) positive
    · have carry : (exponent + 1) * exponentUnit + fraction + 1 =
          (exponent + 1 + 1) * exponentUnit + 0 := by
        rw [Nat.add_mul (exponent + 1) 1]
        omega
      rw [carry, unitsOf_add (exponent + 1) (by decide)]
      have double : Nat.pow 2 (exponent + 1) = 2 * Nat.pow 2 exponent := Nat.mul_comm _ 2
      rw [double, ← Nat.mul_assoc]
      exact Nat.mul_lt_mul_of_pos_right (by omega) positive

/-- A number of 53 binary digits, with zeros behind them, is the number of units of a magnitude. -/
theorem exists_unitsOf {n : Nat} (digits : n < 2 * exponentUnit) (zeros : Nat) :
    ∃ magnitude, unitsOf magnitude = n * Nat.pow 2 zeros := by
  have whole (large : exponentUnit ≤ n) : exponentUnit + (n - exponentUnit) = n := by omega
  induction zeros generalizing n with
  | zero =>
    obtain small | large := Nat.lt_or_ge n exponentUnit
    · exact ⟨n, by rw [unitsOf_of_lt small]; exact (Nat.mul_one n).symm⟩
    · exact ⟨_, by rw [unitsOf_add 0 (by omega : n - exponentUnit < exponentUnit), whole large]⟩
  | succ zeros ih =>
    obtain small | large := Nat.lt_or_ge n exponentUnit
    -- There is room for one of the zeros among the digits.
    · obtain ⟨magnitude, same⟩ := ih (n := 2 * n) (by omega) (by omega)
      refine ⟨magnitude, same.trans ?_⟩
      show 2 * n * Nat.pow 2 zeros = n * (Nat.pow 2 zeros * 2)
      ring
    · exact ⟨_, by
        rw [unitsOf_add (zeros + 1) (by omega : n - exponentUnit < exponentUnit), whole large]⟩

/-- Numbers of 53 binary digits with fewer zeros behind them than an exponent counts are below the
number of units with this exponent. -/
theorem mul_two_pow_le {zeros exponent : Nat} (fewer : zeros < exponent) :
    2 * exponentUnit * Nat.pow 2 zeros ≤ unitsOf ((exponent + 1) * exponentUnit) := by
  have units := unitsOf_add exponent (by decide : 0 < exponentUnit)
  rw [Nat.add_zero, Nat.add_zero] at units
  have double : Nat.pow 2 (zeros + 1) = 2 * Nat.pow 2 zeros := Nat.mul_comm _ 2
  calc 2 * exponentUnit * Nat.pow 2 zeros = exponentUnit * Nat.pow 2 (zeros + 1) := by
        rw [double]
        ring
    _ ≤ exponentUnit * Nat.pow 2 exponent :=
      Nat.mul_le_mul_left _ (Nat.pow_le_pow_right (by decide) fewer)
    _ = unitsOf ((exponent + 1) * exponentUnit) := units.symm

/-! ## Nearest magnitudes -/

/-- The magnitude nearest to a quotient of units, if infinity is not reached. -/
def nearestUnits (numerator denominator : Nat) : Nat :=
  let excess := (numerator / denominator).log2 - 52
  excess * exponentUnit + roundHalfEven numerator (denominator * Nat.pow 2 excess)

section Nearest

variable {n n' d d' : Nat}

/-- The nearest magnitude is found by counting in units, and is no more than infinity. -/
theorem nearest_eq (n d : Nat) : nearest n d = min infinity (nearestUnits (n * unitsPerOne) d) :=
  rfl

/-- Nothing is rounded beyond infinity. -/
theorem nearest_le_infinity (n d : Nat) : nearest n d ≤ infinity := Nat.min_le_left _ _

/-- The number of binary digits keeps the order. -/
theorem log2_mono (le : n ≤ n') : n.log2 ≤ n'.log2 := by
  obtain rfl | nonzero := Nat.eq_zero_or_pos n
  · rw [Nat.log2_zero]
    exact Nat.zero_le _
  · exact (Nat.le_log2 (by omega)).2 (Nat.le_trans (Nat.log2_self_le (by omega)) le)

/-- A quotient is at most a number of 53 binary digits and those that are dropped from it. -/
theorem le_mul_of_excess (positive : 0 < d) :
    n ≤ 2 * exponentUnit * (d * Nat.pow 2 ((n / d).log2 - 52)) := by
  have digits : n / d < Nat.pow 2 ((n / d).log2 + 1) := Nat.lt_log2_self
  have room : Nat.pow 2 ((n / d).log2 + 1) ≤ Nat.pow 2 ((n / d).log2 - 52 + 53) :=
    Nat.pow_le_pow_right (by decide) (by omega)
  have parts : Nat.pow 2 ((n / d).log2 - 52 + 53) =
      Nat.pow 2 ((n / d).log2 - 52) * (2 * exponentUnit) := two_pow_add _ 53
  calc n ≤ d * (n / d + 1) := Nat.le_of_lt (Nat.lt_mul_div_succ n positive)
    _ ≤ d * (Nat.pow 2 ((n / d).log2 - 52) * (2 * exponentUnit)) :=
      Nat.mul_le_mul_left d (parts ▸ Nat.le_trans digits room)
    _ = 2 * exponentUnit * (d * Nat.pow 2 ((n / d).log2 - 52)) := by ring

/-- A quotient from which digits are dropped keeps 53 of them. -/
theorem mul_le_of_excess (some : 0 < (n / d).log2 - 52) :
    exponentUnit * (d * Nat.pow 2 ((n / d).log2 - 52)) ≤ n := by
  have nonzero : n / d ≠ 0 := by
    intro nothing
    rw [nothing, Nat.log2_zero] at some
    exact absurd some (by decide)
  have digits : Nat.pow 2 (n / d).log2 ≤ n / d := Nat.log2_self_le nonzero
  have place : (n / d).log2 = (n / d).log2 - 52 + 52 := by omega
  have parts : Nat.pow 2 ((n / d).log2 - 52 + 52) =
      Nat.pow 2 ((n / d).log2 - 52) * exponentUnit := two_pow_add _ 52
  rw [← place] at parts
  calc exponentUnit * (d * Nat.pow 2 ((n / d).log2 - 52)) =
      Nat.pow 2 (n / d).log2 * d := by rw [parts]; ring
    _ ≤ n / d * d := Nat.mul_le_mul_right d digits
    _ ≤ n := Nat.div_mul_le_self n d

/-- Rounding to a magnitude keeps the order of quotients. -/
theorem nearestUnits_mono (positive : 0 < d) (positive' : 0 < d') (le : n * d' ≤ n' * d) :
    nearestUnits n d ≤ nearestUnits n' d' := by
  have floors : n / d ≤ n' / d' := div_le_div_of_mul_le positive positive' le
  have excess : (n / d).log2 - 52 ≤ (n' / d').log2 - 52 :=
    Nat.sub_le_sub_right (log2_mono floors) 52
  have most := le_mul_of_excess (n := n) positive
  have least := mul_le_of_excess (n := n') (d := d')
  unfold nearestUnits
  dsimp only
  generalize (n / d).log2 - 52 = e at excess most ⊢
  generalize (n' / d').log2 - 52 = e' at excess least ⊢
  have power : 0 < Nat.pow 2 e := two_pow_pos e
  have power' : 0 < Nat.pow 2 e' := two_pow_pos e'
  obtain rfl | apart : e = e' ∨ e + 1 ≤ e' := by omega
  · refine Nat.add_le_add_left (roundHalfEven_mono (Nat.mul_pos positive power)
      (Nat.mul_pos positive' power) ?_) _
    calc n * (d' * Nat.pow 2 e) = n * d' * Nat.pow 2 e := (Nat.mul_assoc ..).symm
      _ ≤ n' * d * Nat.pow 2 e := Nat.mul_le_mul_right _ le
      _ = n' * (d * Nat.pow 2 e) := Nat.mul_assoc ..
  -- With more digits to drop, the greater one has 53 digits, and the other one no more than those.
  · have upper : roundHalfEven n (d * Nat.pow 2 e) ≤ 2 * exponentUnit :=
      roundHalfEven_le_of_le_mul (Nat.mul_pos positive power) most
    have lower : exponentUnit ≤ roundHalfEven n' (d' * Nat.pow 2 e') :=
      le_roundHalfEven_of_mul_le (Nat.mul_pos positive' power') (least (by omega))
    have step : (e + 1) * exponentUnit ≤ e' * exponentUnit := Nat.mul_le_mul_right _ apart
    rw [Nat.add_mul] at step
    omega

/-- A number of units that a magnitude stands for is rounded to this magnitude. -/
theorem nearestUnits_unitsOf_mul (magnitude : Nat) (positive : 0 < d) :
    nearestUnits (unitsOf magnitude * d) d = magnitude := by
  unfold nearestUnits
  dsimp only
  rw [Nat.mul_div_cancel _ positive]
  obtain small | ⟨exponent, fraction, bound, rfl⟩ := exists_fields magnitude
  · have digits : magnitude.log2 ≤ 52 := log2_mono (Nat.le_of_lt small)
    have excess : magnitude.log2 - 52 = 0 := Nat.sub_eq_zero_of_le digits
    have one : d * Nat.pow 2 0 = d := Nat.mul_one d
    rw [unitsOf_of_lt small, excess, one, roundHalfEven_mul _ positive, Nat.zero_mul, Nat.zero_add]
  · rw [unitsOf_add exponent bound]
    have power : 0 < Nat.pow 2 exponent := two_pow_pos exponent
    have digits : ((exponentUnit + fraction) * Nat.pow 2 exponent).log2 = 52 + exponent := by
      have least : Nat.pow 2 (52 + exponent) = exponentUnit * Nat.pow 2 exponent :=
        two_pow_add 52 exponent
      have most : Nat.pow 2 (52 + exponent + 1) = 2 * exponentUnit * Nat.pow 2 exponent := by
        show Nat.pow 2 (52 + exponent) * 2 = _
        rw [least]
        ring
      have units : 0 < (exponentUnit + fraction) * Nat.pow 2 exponent :=
        Nat.mul_pos (Nat.add_pos_left (by decide) _) power
      refine (Nat.log2_eq_iff (Nat.ne_of_gt units)).2 ⟨?_, ?_⟩
      · exact Nat.le_trans (Nat.le_of_eq least) (Nat.mul_le_mul_right _ (Nat.le_add_right ..))
      · exact Nat.lt_of_lt_of_eq (Nat.mul_lt_mul_of_pos_right (by omega) power) most.symm
    have excess : 52 + exponent - 52 = exponent := by omega
    have shifted : (exponentUnit + fraction) * Nat.pow 2 exponent * d =
        (exponentUnit + fraction) * (d * Nat.pow 2 exponent) := by ring
    rw [digits, excess, shifted, roundHalfEven_mul _ (Nat.mul_pos positive power), Nat.add_mul]
    omega

/-- Rounding keeps the order of quotients. -/
theorem nearest_mono (positive : 0 < d) (positive' : 0 < d') (le : n * d' ≤ n' * d) :
    nearest n d ≤ nearest n' d' := by
  have scaled : n * unitsPerOne * d' ≤ n' * unitsPerOne * d := by
    rw [Nat.mul_right_comm, Nat.mul_right_comm n']
    exact Nat.mul_le_mul_right unitsPerOne le
  have units := nearestUnits_mono positive positive' scaled
  rw [nearest_eq, nearest_eq]
  omega

/-- A quotient that is the number of units of a magnitude is rounded to this magnitude. -/
theorem nearest_of_units {magnitude : Nat} (positive : 0 < d) (finite : magnitude ≤ infinity)
    (same : n * unitsPerOne = unitsOf magnitude * d) : nearest n d = magnitude := by
  rw [nearest_eq, same, nearestUnits_unitsOf_mul magnitude positive]
  exact Nat.min_eq_right finite

/-- A quotient of 53 binary digits, with zeros behind them, is not rounded. -/
theorem unitsOf_nearest {k unit zeros : Nat} (power : unit = Nat.pow 2 zeros)
    (finite : zeros < 2046) (positive : 0 < d) (digits : k < 2 * exponentUnit)
    (same : n * unitsPerOne = k * unit * d) : unitsOf (nearest n d) = k * unit := by
  obtain ⟨magnitude, units⟩ := exists_unitsOf digits zeros
  have bound : unitsOf magnitude ≤ unitsOf ((2046 + 1) * exponentUnit) := by
    rw [units]
    exact Nat.le_trans (Nat.mul_le_mul_right _ (Nat.le_of_lt digits)) (mul_two_pow_le finite)
  rw [← power] at units
  rw [nearest_of_units positive (unitsOf_strictMono.le_iff_le.1 bound) (units.symm ▸ same), units]

end Nearest

/-! ## Numbers -/

section Numbers

variable {negative : Bool} {n n' d d' magnitude : Nat}

/-- The word of a sign and a magnitude. -/
theorem toNat_bits_ofMagnitude (small : magnitude < signUnit) :
    (ofMagnitude negative magnitude).bits.toNat =
      magnitude + if negative then signUnit else 0 := by
  have fits : (magnitude + if negative then signUnit else 0) < 18446744073709551616 := by
    rw [signUnit] at small ⊢
    split <;> omega
  rw [ofMagnitude, Nat.mod_eq_of_lt small]
  exact UInt64.toNat_ofNat_of_lt fits

/-- The word of a sign and a magnitude has this magnitude. -/
theorem magnitude_ofMagnitude (small : magnitude < signUnit) :
    (ofMagnitude negative magnitude).magnitude = magnitude := by
  rw [Binary64.magnitude, toNat_bits_ofMagnitude small]
  cases negative with
  | false => exact Nat.mod_eq_of_lt small
  | true => exact (Nat.add_mod_right magnitude signUnit).trans (Nat.mod_eq_of_lt small)

/-- The word of a sign and a magnitude has this sign. -/
theorem isNegative_ofMagnitude (small : magnitude < signUnit) :
    (ofMagnitude negative magnitude).isNegative = negative := by
  rw [isNegative, toNat_bits_ofMagnitude small]
  cases negative with
  | false => exact decide_eq_false (Nat.not_le.2 small)
  | true => exact decide_eq_true (Nat.le_add_left signUnit magnitude)

/-- What is rounded leaves the sign bit free. -/
theorem nearest_lt_signUnit (n d : Nat) : nearest n d < signUnit :=
  Nat.lt_of_le_of_lt (nearest_le_infinity n d) (by decide)

/-- A quotient has the nearest magnitude. -/
@[simp] theorem magnitude_ofQuotient : (ofQuotient negative n d).magnitude = nearest n d :=
  magnitude_ofMagnitude (nearest_lt_signUnit n d)

/-- A quotient has the sign that it is given. -/
@[simp] theorem isNegative_ofQuotient : (ofQuotient negative n d).isNegative = negative :=
  isNegative_ofMagnitude (nearest_lt_signUnit n d)

/-- A quotient is no NaN. -/
@[simp] theorem isNaN_ofQuotient : (ofQuotient negative n d).isNaN = false := by
  rw [isNaN, magnitude_ofQuotient]
  exact decide_eq_false (Nat.not_lt.2 (nearest_le_infinity n d))

/-- Quotients without a sign are ordered as their magnitudes. -/
theorem ofQuotient_lt_ofQuotient :
    ofQuotient false n d < ofQuotient false n' d' ↔ nearest n d < nearest n' d' := by
  simp only [lt_iff, rank, isNaN_ofQuotient, isNegative_ofQuotient, magnitude_ofQuotient,
    Bool.false_eq_true, if_false, true_and, Int.ofNat_lt]

end Numbers

/-! ## Whole numbers -/

/-- A natural number after it was rounded. -/
def roundNat (n : Nat) : Nat := unitsOf (nearest n 1) / unitsPerOne

/-- What is rounded to an integer is rounded like its absolute value. -/
theorem trunc_ofInt (n : Int) :
    (ofInt n).trunc = if n < 0 then -(roundNat n.natAbs : Int) else roundNat n.natAbs := by
  simp only [trunc, units, ofInt, isNegative_ofQuotient, magnitude_ofQuotient, decide_eq_true_eq,
    roundNat, Int.natCast_ediv]

/-- Rounding keeps the order of natural numbers. -/
theorem roundNat_mono {n n' : Nat} (le : n ≤ n') : roundNat n ≤ roundNat n' := by
  have magnitudes : nearest n 1 ≤ nearest n' 1 :=
    nearest_mono Nat.one_pos Nat.one_pos (Nat.mul_le_mul_right 1 le)
  exact Nat.div_le_div_right (unitsOf_strictMono.monotone magnitudes)

/-- Natural numbers up to `9007199254740992` are binary64 numbers. -/
theorem unitsOf_nearest_of_le {n : Nat} (small : n ≤ 9007199254740992) :
    unitsOf (nearest n 1) = n * unitsPerOne := by
  obtain ⟨places, -, few, power⟩ := exists_unitsPerOne
  obtain digits | rfl := Nat.lt_or_eq_of_le small
  · exact unitsOf_nearest power (by omega) Nat.one_pos digits (Nat.mul_one _).symm
  -- The least number of 54 digits ends in a zero.
  · have ends (unit : Nat) : 9007199254740992 * unit = exponentUnit * (2 * unit) := by
      rw [exponentUnit]
      omega
    rw [ends]
    exact unitsOf_nearest (two_mul_eq_of_eq power) (by omega) Nat.one_pos (by decide)
      (by rw [ends, Nat.mul_one])

/-- Such numbers are not rounded. -/
theorem roundNat_of_le {n : Nat} (small : n ≤ 9007199254740992) : roundNat n = n := by
  rw [roundNat, unitsOf_nearest_of_le small, Nat.mul_div_cancel n unitsPerOne_pos]

/-! ## Finite numbers -/

section Finite

variable {x y : Binary64} {n bound : Nat}

/-- A number is finite below the magnitude of the infinities. -/
theorem isFinite_iff : x.isFinite = true ↔ x.magnitude < infinity := decide_eq_true_iff

/-- What is below a natural number that is not rounded to infinity is not, either. -/
theorem isFinite_of_le (finite : nearest bound 1 < infinity) (small : n ≤ bound)
    (negative : Bool) : (ofQuotient negative n 1).isFinite = true := by
  rw [isFinite_iff, magnitude_ofQuotient]
  refine Nat.lt_of_le_of_lt (nearest_mono Nat.one_pos Nat.one_pos ?_) finite
  exact Nat.mul_le_mul_right 1 small

/-- A power of ten counts one at least. -/
theorem unitsPerOne_le_powerOfTen (exponent : Nat) : unitsPerOne ≤ (powerOfTen exponent).units := by
  have one : unitsOf (nearest 1 1) = unitsPerOne := by
    rw [unitsOf_nearest_of_le (by decide), Nat.one_mul]
  have power : 1 ≤ Nat.pow 10 exponent := Nat.pow_pos (by decide)
  rw [units, powerOfTen, ofNat, magnitude_ofQuotient, ← one]
  exact unitsOf_strictMono.monotone
    (nearest_mono Nat.one_pos Nat.one_pos (Nat.mul_le_mul_right 1 power))

/-- A finite number divided by what is one at least is finite. -/
theorem isFinite_div (finite : x.isFinite = true) (atLeast : unitsPerOne ≤ y.units) :
    (x.div y).isFinite = true := by
  rw [isFinite_iff] at finite ⊢
  have positive : 0 < unitsPerOne := unitsPerOne_pos
  have self : nearest x.units unitsPerOne = x.magnitude :=
    nearest_of_units positive (Nat.le_of_lt finite) rfl
  rw [div, magnitude_ofQuotient]
  refine Nat.lt_of_le_of_lt ?_ finite
  rw [← self]
  exact nearest_mono (Nat.lt_of_lt_of_le positive atLeast) positive
    (Nat.mul_le_mul_left x.units atLeast)

/-- A finite number with the opposite sign is finite. -/
theorem isFinite_neg (finite : x.isFinite = true) : x.neg.isFinite = true := by
  rw [isFinite_iff] at finite ⊢
  rw [neg, magnitude_ofMagnitude (Nat.lt_trans finite (by decide))]
  exact finite

/-- Rounding adds no more than the last of 53 binary digits. -/
theorem unitsOf_nearestUnits_le (large : exponentUnit ≤ n) :
    exponentUnit * unitsOf (nearestUnits n 1) ≤ (exponentUnit + 1) * n := by
  have nonzero : n ≠ 0 := Nat.ne_of_gt (Nat.lt_of_lt_of_le (by decide) large)
  have digits : 52 ≤ n.log2 := (Nat.le_log2 nonzero).2 large
  have place : n.log2 = n.log2 - 52 + 52 := by omega
  have least : Nat.pow 2 (n.log2 - 52) * exponentUnit ≤ n := by
    have parts : Nat.pow 2 (n.log2 - 52 + 52) = Nat.pow 2 (n.log2 - 52) * exponentUnit :=
      two_pow_add _ 52
    rw [← parts, ← place]
    exact Nat.log2_self_le nonzero
  have most : n ≤ 2 * exponentUnit * (1 * Nat.pow 2 (n.log2 - 52)) := by
    have bound := le_mul_of_excess (n := n) Nat.one_pos
    rwa [Nat.div_one] at bound
  unfold nearestUnits
  rw [Nat.div_one]
  dsimp only
  generalize n.log2 - 52 = excess at least most ⊢
  have power : 0 < 1 * Nat.pow 2 excess := Nat.mul_pos Nat.one_pos (two_pow_pos excess)
  have lower : exponentUnit ≤ roundHalfEven n (1 * Nat.pow 2 excess) :=
    le_roundHalfEven_of_mul_le power (by rwa [Nat.one_mul, Nat.mul_comm])
  have upper : roundHalfEven n (1 * Nat.pow 2 excess) ≤ 2 * exponentUnit :=
    roundHalfEven_le_of_le_mul power most
  have above := roundHalfEven_le n (1 * Nat.pow 2 excess)
  rw [Nat.one_mul] at lower upper above ⊢
  generalize roundHalfEven n (Nat.pow 2 excess) = rounded at lower upper above ⊢
  have units : unitsOf (excess * exponentUnit + rounded) = rounded * Nat.pow 2 excess := by
    obtain fits | rfl := Nat.lt_or_eq_of_le upper
    · have split : excess * exponentUnit + rounded =
          (excess + 1) * exponentUnit + (rounded - exponentUnit) := by
        rw [Nat.add_mul]
        omega
      rw [split, unitsOf_add excess (by omega), Nat.add_sub_cancel' lower]
    · have split : excess * exponentUnit + 2 * exponentUnit =
          (excess + 1 + 1) * exponentUnit + 0 := by ring
      have double : Nat.pow 2 (excess + 1) = 2 * Nat.pow 2 excess := Nat.mul_comm _ 2
      rw [split, unitsOf_add (excess + 1) (by decide), double]
      ring
  rw [units]
  calc exponentUnit * (rounded * Nat.pow 2 excess)
      ≤ exponentUnit * ((n / Nat.pow 2 excess + 1) * Nat.pow 2 excess) :=
        Nat.mul_le_mul_left _ (Nat.mul_le_mul_right _ above)
    _ = exponentUnit * (n / Nat.pow 2 excess * Nat.pow 2 excess) +
          Nat.pow 2 excess * exponentUnit := by ring
    _ ≤ exponentUnit * n + n :=
        Nat.add_le_add (Nat.mul_le_mul_left _ (Nat.div_mul_le_self n _)) least
    _ = (exponentUnit + 1) * n := by ring

/-- A natural number is rounded up by little. -/
theorem units_ofNat_le (n : Nat) :
    exponentUnit * (ofNat n).units ≤ (exponentUnit + 1) * (n * unitsPerOne) := by
  rw [units, ofNat, magnitude_ofQuotient]
  obtain rfl | positive := Nat.eq_zero_or_pos n
  · rw [unitsOf_nearest_of_le (by decide), Nat.zero_mul]
    exact Nat.zero_le _
  · obtain ⟨places, many, -, power⟩ := exists_unitsPerOne
    have large : exponentUnit ≤ n * unitsPerOne := by
      calc exponentUnit = Nat.pow 2 52 := rfl
        _ ≤ Nat.pow 2 places := Nat.pow_le_pow_right (by decide) many
        _ = unitsPerOne := power.symm
        _ ≤ n * unitsPerOne := Nat.le_mul_of_pos_left _ positive
    have below : nearest n 1 ≤ nearestUnits (n * unitsPerOne) 1 := Nat.min_le_right _ _
    exact Nat.le_trans (Nat.mul_le_mul_left _ (unitsOf_strictMono.monotone below))
      (unitsOf_nearestUnits_le large)

/-- The product of natural numbers is finite if its exact value and little more is. The factor `c`
is for values that are themselves known up to a ratio. -/
theorem isFinite_mul {a b c k m : Nat} (factor : 0 < c) (small : c * (a * b) ≤ k)
    (room : (exponentUnit + 1) * (exponentUnit + 1) * k ≤ exponentUnit * exponentUnit * (c * m))
    (finite : nearest m 1 < infinity) : ((ofNat a).mul (ofNat b)).isFinite = true := by
  have first := units_ofNat_le a
  have second := units_ofNat_le b
  have positive := unitsPerOne_pos
  rw [isFinite_iff, mul, magnitude_ofQuotient]
  refine Nat.lt_of_le_of_lt (nearest_mono (Nat.mul_pos positive positive) Nat.one_pos ?_) finite
  generalize (ofNat a).units = x at first ⊢
  generalize (ofNat b).units = y at second ⊢
  generalize unitsPerOne = unit at first second ⊢
  have scale : 0 < exponentUnit * exponentUnit * c :=
    Nat.mul_pos (by decide) factor
  generalize exponentUnit = one at first second room scale
  refine Nat.le_of_mul_le_mul_left ?_ scale
  calc one * one * c * (x * y * 1) = c * ((one * x) * (one * y)) := by ring
    _ ≤ c * (((one + 1) * (a * unit)) * ((one + 1) * (b * unit))) :=
        Nat.mul_le_mul_left c (Nat.mul_le_mul first second)
    _ = (one + 1) * (one + 1) * (c * (a * b)) * (unit * unit) := by ring
    _ ≤ (one + 1) * (one + 1) * k * (unit * unit) :=
        Nat.mul_le_mul_right _ (Nat.mul_le_mul_left _ small)
    _ ≤ one * one * (c * m) * (unit * unit) := Nat.mul_le_mul_right _ room
    _ = one * one * c * (m * (unit * unit)) := by ring

end Finite

/-! ## Exact numbers -/

section Exact

variable {x y z : Binary64} {n exponent : Nat}

/-- A number is told by its sign and its magnitude. -/
theorem eq_of_magnitude (signs : x.isNegative = y.isNegative)
    (same : x.magnitude = y.magnitude) : x = y := by
  obtain ⟨word⟩ := x
  obtain ⟨word'⟩ := y
  have below : word.toNat < 18446744073709551616 := word.toNat_lt
  have below' : word'.toNat < 18446744073709551616 := word'.toNat_lt
  have sides : signUnit ≤ word.toNat ↔ signUnit ≤ word'.toNat := decide_eq_decide.1 signs
  have rests : word.toNat % signUnit = word'.toNat % signUnit := same
  rw [signUnit] at sides rests
  have words : word.toNat = word'.toNat := by omega
  rw [UInt64.toNat_inj.1 words]

/-- A magnitude is told by its units. -/
theorem magnitude_eq_of_units (same : x.units = y.units) : x.magnitude = y.magnitude :=
  unitsOf_strictMono.injective same

/-- A number is the one with its magnitude and no sign, with its sign put in front. -/
theorem signed_eq_of_magnitude (plus : x.isNegative = false) (same : x.magnitude = y.magnitude) :
    (if y.isNegative then x.neg else x) = y := by
  have below : x.magnitude < signUnit := Nat.mod_lt _ (by decide)
  cases sign : y.isNegative with
  | false => exact eq_of_magnitude (plus.trans sign.symm) same
  | true =>
    have signs : x.neg.isNegative = y.isNegative := by
      rw [neg, isNegative_ofMagnitude below, plus, sign]
      rfl
    have magnitudes : x.neg.magnitude = y.magnitude := by
      rw [neg, magnitude_ofMagnitude below, same]
    exact eq_of_magnitude signs magnitudes

/-- A natural number has no sign. -/
theorem isNegative_ofNat (n : Nat) : (ofNat n).isNegative = false := isNegative_ofQuotient

/-- A product has the sign that the signs of its factors make up. -/
theorem isNegative_mul : (x.mul y).isNegative = (x.isNegative != y.isNegative) :=
  isNegative_ofQuotient

/-- A quotient has the sign that the signs of its parts make up. -/
theorem isNegative_div : (x.div y).isNegative = (x.isNegative != y.isNegative) :=
  isNegative_ofQuotient

/-- Small natural numbers are not rounded. -/
theorem units_ofNat_of_le (small : n ≤ 9007199254740992) :
    (ofNat n).units = n * unitsPerOne := by
  rw [units, ofNat, magnitude_ofQuotient]
  exact unitsOf_nearest_of_le small

/-- The powers of ten up to the twenty-second are not rounded: but for zeros at their ends, they
have no more than 53 binary digits. -/
theorem units_powerOfTen (small : exponent ≤ 22) :
    (powerOfTen exponent).units = Nat.pow 10 exponent * unitsPerOne := by
  obtain ⟨places, -, few, power⟩ := exists_unitsPerOne
  have digits : Nat.pow 5 exponent < 2 * exponentUnit := by
    have most : Nat.pow 5 exponent ≤ Nat.pow 5 22 := Nat.pow_le_pow_right (by decide) small
    exact Nat.lt_of_le_of_lt most (by decide)
  have zeros : Nat.pow 2 exponent * unitsPerOne = Nat.pow 2 (exponent + places) := by
    rw [power, two_pow_add]
  have parts : Nat.pow 10 exponent = Nat.pow 5 exponent * Nat.pow 2 exponent :=
    Nat.mul_pow 5 2 exponent
  rw [units, powerOfTen, ofNat, magnitude_ofQuotient, parts, Nat.mul_assoc]
  exact unitsOf_nearest zeros (by omega) Nat.one_pos digits
    (by rw [Nat.mul_one, Nat.mul_assoc])

/-- A product that is a finite number is not rounded. -/
theorem magnitude_mul_of_units (finite : z.isFinite = true)
    (same : x.units * y.units = z.units * unitsPerOne) : (x.mul y).magnitude = z.magnitude := by
  have positive := unitsPerOne_pos
  rw [mul, magnitude_ofQuotient]
  refine nearest_of_units (Nat.mul_pos positive positive)
    (Nat.le_of_lt (isFinite_iff.1 finite)) ?_
  rw [same, units, Nat.mul_assoc]

/-- A quotient that is a finite number is not rounded. -/
theorem magnitude_div_of_units (finite : z.isFinite = true) (nonzero : 0 < y.units)
    (same : x.units * unitsPerOne = z.units * y.units) : (x.div y).magnitude = z.magnitude := by
  rw [div, magnitude_ofQuotient]
  exact nearest_of_units nonzero (Nat.le_of_lt (isFinite_iff.1 finite)) same

end Exact

end Binary64

end Troupe

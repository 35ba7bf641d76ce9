import Troupe.Proofs.Binary64.Rounding
import Troupe.Proofs.Json.Numeral

/-!
# What numbers are read as

An integer is read from a numeral that is written as it is, without point and exponent
(`Numeral.IsInteger`), and a binary64 number from every numeral that is not too large for one. The
digits that are kept of a numeral and the power of ten behind them are rounded apart. So what is
read is always finite (`Numeral.isFinite_of_real?`), something is read of every number up to the
greatest finite one cut off behind fifteen digits (`Numeral.exists_real?`), and where neither the
digits nor the power of ten is rounded, the number is read that is written
(`Numeral.real?_of_denotes`).
-/

namespace Troupe

namespace Numeral

variable {n : Numeral} {i : Int}

/-- A numeral is an integer as it is written: it has no point and no exponent, and its digits and
sign are those of the integer. A minus does not stand in front of zero. -/
structure IsInteger (n : Numeral) (i : Int) : Prop where
  /-- There is no digit behind a point. -/
  fraction : n.fraction = []
  /-- There is no exponent. -/
  exponent : n.exponent = none
  /-- The digits are those of the absolute value. -/
  size : Nat.ofDigitChars 10 n.whole 0 = i.natAbs
  /-- The sign is that of the integer. -/
  sign : n.negative = decide (i < 0)

/-- The integer that a numeral is read as is the one it is written for, if this fits a word. -/
theorem toInteger?_eq_some_iff :
    n.toInteger? = some i ↔ n.IsInteger i ∧ Int64.minValue.toInt ≤ i ∧ i < UInt64.size := by
  have least : Int64.minValue.toInt = -9223372036854775808 := by decide
  constructor
  · intro read
    unfold toInteger? at read
    dsimp only at read
    split at read
    · cases read
    rename_i plain
    simp only [Bool.or_eq_true, Bool.not_eq_true', List.isEmpty_eq_false_iff, not_or,
      Decidable.not_not, Option.isSome_iff_ne_none] at plain
    obtain ⟨fraction, exponent⟩ := plain
    split at read
    · rename_i negative
      split at read
      · cases read
        exact ⟨⟨fraction, exponent, by omega, by rw [negative, decide_eq_true]; omega⟩,
          by omega, by omega⟩
      · cases read
    · rename_i positive
      split at read
      · cases read
        exact ⟨⟨fraction, exponent, by omega, by
          rw [Bool.eq_false_iff.2 positive, decide_eq_false]; omega⟩, by omega, by omega⟩
      · cases read
  · rintro ⟨⟨fraction, exponent, size, sign⟩, lower, upper⟩
    unfold toInteger?
    rw [fraction, exponent, size, sign]
    by_cases negative : i < 0
    · have back : -(i.natAbs : Int) = i := by omega
      rw [decide_eq_true negative]
      change (if 0 < i.natAbs ∧ Int64.minValue.toInt ≤ -(i.natAbs : Int) then
        some (-(i.natAbs : Int)) else none) = some i
      rw [back, if_pos ⟨by omega, lower⟩]
    · have back : (i.natAbs : Int) = i := by omega
      rw [decide_eq_false negative]
      change (if i.natAbs < UInt64.size then some (i.natAbs : Int) else none) = some i
      rw [back, if_pos (by omega)]

/-- The integers that a numeral is read as are integers as they are written. -/
theorem value_eq_integer_iff :
    n.value? = some (.integer i) ↔ n.IsInteger i ∧ Int64.minValue.toInt ≤ i ∧ i < UInt64.size := by
  rw [← toInteger?_eq_some_iff, value?]
  cases n.toInteger? with
  | none => simp
  | some j => simp

/-- The binary64 number that a numeral is read as, where that is what is read. -/
def real? (n : Numeral) : Option Binary64 :=
  n.value?.map fun
    | .integer i => .ofInt i
    | .real x => x

/-! ## Numbers that are read are finite -/

section Finite

open Binary64

variable {x : Binary64}

/-- No word is rounded to infinity. -/
theorem isFinite_word : nearest UInt64.size 1 < infinity := by decide +kernel

/-- A finite number divided by a power of ten is finite. -/
theorem isFinite_divideByPower {exponent : Nat} (finite : x.isFinite = true) :
    (divideByPower x exponent).isFinite = true := by
  fun_induction divideByPower x exponent with
  | case1 x exponent small => exact isFinite_div finite (unitsPerOne_le_powerOfTen exponent)
  | case2 x exponent large nothing => exact finite
  | case3 x exponent large some ih => exact ih (isFinite_div finite (unitsPerOne_le_powerOfTen 308))

/-- The digits that are kept of a number fit an unsigned 64-bit word. -/
theorem appendFitting_lt {start : Nat} (fits : start < UInt64.size) (digits : List Char) :
    (appendFitting start digits).1 < UInt64.size := by
  induction digits generalizing start with
  | nil => exact fits
  | cons digit rest ih =>
    rw [appendFitting]
    split
    · rename_i next
      exact ih next
    · exact fits

/-- A word times a power of ten is finite where it is a number. -/
theorem isFinite_scale {digits : Nat} {exponent : Int} (fits : digits < UInt64.size)
    (scaled : scale? digits exponent = some x) : x.isFinite = true := by
  have finite : (Binary64.ofNat digits).isFinite = true :=
    isFinite_of_le isFinite_word (Nat.le_of_lt fits) false
  unfold scale? at scaled
  dsimp only at scaled
  split at scaled
  · cases scaled
    exact finite
  split at scaled
  · cases scaled
    exact isFinite_divideByPower finite
  split at scaled
  · cases scaled
  split at scaled
  · cases scaled
    assumption
  · cases scaled

/-- A number that is read as a binary64 one is finite. -/
theorem isFinite_of_real? (read : n.real? = some x) : x.isFinite = true := by
  obtain ⟨value, found, same⟩ := Option.map_eq_some_iff.1 read
  cases value with
  | integer i =>
    have least : Int64.minValue.toInt = -9223372036854775808 := by decide
    have greatest : UInt64.size = 18446744073709551616 := rfl
    obtain ⟨-, lower, upper⟩ := value_eq_integer_iff.1 found
    cases same
    exact isFinite_of_le isFinite_word (by omega) _
  | real y =>
    have same : y = x := same
    rw [value?] at found
    cases integer : n.toInteger? with
    | some i => rw [integer] at found; cases found
    | none =>
      rw [integer] at found
      obtain ⟨z, real, equal⟩ := Option.map_eq_some_iff.1 found
      obtain ⟨w, scaled, signed⟩ := Option.map_eq_some_iff.1 real
      have finite : w.isFinite = true :=
        isFinite_scale (appendFitting_lt (appendFitting_lt (by decide) _) _) scaled
      cases equal
      rw [← same, ← signed]
      split
      · exact isFinite_neg finite
      · exact finite

/-- The digits of a numeral on both sides of the point. -/
def digits (n : Numeral) : Nat := Nat.ofDigitChars 10 (n.whole ++ n.fraction) 0

/-- The absolute value of a numeral, as it is written, is no more than a bound. -/
def AtMost (n : Numeral) (bound : Nat) : Prop :=
  n.digits * 10 ^ (n.exponent.getD 0).toNat ≤
    bound * 10 ^ (n.fraction.length + (-n.exponent.getD 0).toNat)

/-- The digits that are kept of a number, with zeros in place of those that are left, are no more
than all of them. -/
theorem appendFitting_mul_le (start : Nat) (digits : List Char) :
    (appendFitting start digits).1 * 10 ^ (appendFitting start digits).2.length ≤
      Nat.ofDigitChars 10 digits start := by
  induction digits generalizing start with
  | nil => simp [appendFitting]
  | cons c rest ih =>
    rw [appendFitting]
    split
    · exact ih (Nat.ofDigitChars 10 [c] start)
    · rw [Nat.ofDigitChars_eq_ofDigitChars_zero, Nat.mul_comm]
      exact Nat.le_add_right _ _

/-- Any digits may follow those that are kept, up to those that are not left. -/
theorem appendFitting_lt_pow {digits : List Char} (all : ∀ c ∈ digits, c.isDigit = true)
    (start : Nat) :
    (appendFitting start digits).2.length ≤ digits.length ∧
      (appendFitting start digits).1 <
        (start + 1) * 10 ^ (digits.length - (appendFitting start digits).2.length) := by
  induction digits generalizing start with
  | nil => exact ⟨Nat.le_refl 0, by simp [appendFitting]⟩
  | cons c rest ih =>
    obtain ⟨digit, others⟩ := List.forall_mem_cons.1 all
    rw [appendFitting]
    split
    · have next : Nat.ofDigitChars 10 [c] start + 1 ≤ (start + 1) * 10 := by
        have most : c.toNat ≤ 57 := (Char.isDigit_iff_toNat.1 digit).2
        have code : '0'.toNat = 48 := rfl
        simp only [Nat.ofDigitChars_cons, Nat.ofDigitChars_nil]
        omega
      obtain ⟨fewer, below⟩ := ih others (Nat.ofDigitChars 10 [c] start)
      refine ⟨Nat.le_succ_of_le fewer, Nat.lt_of_lt_of_le below ?_⟩
      rw [List.length_cons, Nat.succ_sub fewer, Nat.pow_succ', ← Nat.mul_assoc]
      exact Nat.mul_le_mul_right _ next
    · exact ⟨Nat.le_refl _, by simp⟩

/-- Nothing is left behind a number that is small. -/
theorem appendFitting_eq_nil {digits : List Char} {start : Nat}
    (all : ∀ c ∈ digits, c.isDigit = true)
    (small : (appendFitting start digits).1 < 10 ^ 18) : (appendFitting start digits).2 = [] := by
  induction digits generalizing start with
  | nil => rfl
  | cons c rest ih =>
    obtain ⟨digit, others⟩ := List.forall_mem_cons.1 all
    rw [appendFitting] at small ⊢
    split at small
    · rename_i fits
      rw [if_pos fits]
      exact ih others small
    · rename_i large
      have most : c.toNat ≤ 57 := (Char.isDigit_iff_toNat.1 digit).2
      have code : '0'.toNat = 48 := rfl
      have words : UInt64.size = 18446744073709551616 := rfl
      simp only [Nat.ofDigitChars_cons, Nat.ofDigitChars_nil] at large
      omega

/-- The digits that are kept of a numeral, with zeros in place of those that are left, exceed all of
them by little: only where digits are left in front of the point may digits behind it be kept, and
then there are many in front. -/
theorem kept_le (strict : n.IsStrict) :
    10 ^ 18 * ((appendFitting (appendFitting 0 n.whole).1 n.fraction).1 *
        10 ^ ((appendFitting 0 n.whole).2.length +
          (appendFitting (appendFitting 0 n.whole).1 n.fraction).2.length)) ≤
      (10 ^ 18 + 1) * n.digits := by
  have front := appendFitting_mul_le 0 n.whole
  have behind := appendFitting_mul_le (appendFitting 0 n.whole).1 n.fraction
  obtain ⟨fewer, below⟩ := appendFitting_lt_pow strict.isDigit_of_mem_fraction
    (appendFitting 0 n.whole).1
  have few := @appendFitting_eq_nil n.whole 0 strict.isDigit_of_mem_whole
  have sum : n.digits = 10 ^ n.fraction.length * Nat.ofDigitChars 10 n.whole 0 +
      Nat.ofDigitChars 10 n.fraction 0 := by
    rw [digits, Nat.ofDigitChars_append, Nat.ofDigitChars_eq_ofDigitChars_zero]
  generalize appendFitting 0 n.whole = whole at front behind fewer below few ⊢
  generalize appendFitting whole.1 n.fraction = fraction at behind fewer below ⊢
  generalize Nat.ofDigitChars 10 n.whole 0 = inFront at front sum
  by_cases large : whole.1 < 10 ^ 18
  · rw [few large, List.length_nil, Nat.pow_zero, Nat.mul_one] at front
    rw [few large, List.length_nil, Nat.zero_add]
    rw [Nat.ofDigitChars_eq_ofDigitChars_zero] at behind
    have prefixed : 10 ^ n.fraction.length * whole.1 ≤ 10 ^ n.fraction.length * inFront :=
      Nat.mul_le_mul_left _ front
    omega
  · have places : 10 ^ n.fraction.length =
        10 ^ (n.fraction.length - fraction.2.length) * 10 ^ fraction.2.length := by
      rw [← Nat.pow_add, Nat.sub_add_cancel fewer]
    have next : 10 ^ 18 * (whole.1 + 1) ≤ (10 ^ 18 + 1) * whole.1 := by omega
    calc 10 ^ 18 * (fraction.1 * 10 ^ (whole.2.length + fraction.2.length))
        ≤ 10 ^ 18 * ((whole.1 + 1) * 10 ^ (n.fraction.length - fraction.2.length) *
            10 ^ (whole.2.length + fraction.2.length)) :=
          Nat.mul_le_mul_left _ (Nat.mul_le_mul_right _ (Nat.le_of_lt below))
      _ = 10 ^ 18 * (whole.1 + 1) * (10 ^ whole.2.length * 10 ^ n.fraction.length) := by
          rw [places, Nat.pow_add]
          ring
      _ ≤ (10 ^ 18 + 1) * whole.1 * (10 ^ whole.2.length * 10 ^ n.fraction.length) :=
          Nat.mul_le_mul_right _ next
      _ = (10 ^ 18 + 1) * (10 ^ n.fraction.length * (whole.1 * 10 ^ whole.2.length)) := by ring
      _ ≤ (10 ^ 18 + 1) * (10 ^ n.fraction.length * inFront) :=
          Nat.mul_le_mul_left _ (Nat.mul_le_mul_left _ front)
      _ ≤ (10 ^ 18 + 1) * n.digits := Nat.mul_le_mul_left _ (by omega)

/-- A product with a power of ten that is little more than one with another power has a power that
is not much larger. -/
theorem exponent_lt {digits factor exponent places : Nat} (positive : 0 < digits)
    (few : (10 ^ 18 + 1) * factor < 10 ^ 18 * 10 ^ 15)
    (small : 10 ^ 18 * (digits * Nat.pow 10 exponent) ≤
      (10 ^ 18 + 1) * (factor * Nat.pow 10 places)) : exponent < places + 15 := by
  by_contra many
  have power : Nat.pow 10 places * 10 ^ 15 ≤ Nat.pow 10 exponent :=
    calc 10 ^ places * 10 ^ 15 = 10 ^ (places + 15) := (Nat.pow_add 10 places 15).symm
      _ ≤ 10 ^ exponent := Nat.pow_le_pow_right (by decide) (Nat.not_lt.1 many)
  have times : Nat.pow 10 exponent ≤ digits * Nat.pow 10 exponent :=
    Nat.le_mul_of_pos_left _ positive
  have above : (10 ^ 18 + 1) * factor * Nat.pow 10 places < 10 ^ 18 * 10 ^ 15 * Nat.pow 10 places :=
    Nat.mul_lt_mul_of_pos_right few (Nat.pow_pos (by decide))
  rw [Nat.mul_assoc] at above
  generalize Nat.pow 10 places = unit at power above small
  omega

/-- A word times a power of ten is a number where it is no more than the bound, or not much. -/
theorem exists_scale? {digits : Nat} {exponent : Int}
    (small : 0 ≤ exponent → 10 ^ 18 * (digits * Nat.pow 10 exponent.toNat) ≤
      (10 ^ 18 + 1) * (179769313486231 * Nat.pow 10 294)) :
    ∃ x, scale? digits exponent = some x := by
  have finite : nearest (9007199254740991 * Nat.pow 2 971) 1 < infinity := by decide +kernel
  have room : (exponentUnit + 1) * (exponentUnit + 1) *
      ((10 ^ 18 + 1) * (179769313486231 * Nat.pow 10 294)) ≤
        exponentUnit * exponentUnit * (10 ^ 18 * (9007199254740991 * Nat.pow 2 971)) := by
    decide +kernel
  unfold scale?
  dsimp only
  split
  · exact ⟨_, rfl⟩
  rename_i some
  split
  · exact ⟨_, rfl⟩
  rename_i upward
  have product := small (Int.not_lt.1 upward)
  have few := exponent_lt (Nat.pos_of_ne_zero some) (by decide) product
  have number : ((Binary64.ofNat digits).mul (powerOfTen exponent.toNat)).isFinite = true :=
    isFinite_mul (by decide) product room finite
  rw [if_neg (by omega), if_pos number]
  exact ⟨_, rfl⟩

/-- The digits of a numeral that are kept. -/
def keptDigits (n : Numeral) : Nat := (appendFitting (appendFitting 0 n.whole).1 n.fraction).1

/-- The power of ten behind the digits that are kept. -/
def keptExponent (n : Numeral) : Int :=
  n.exponent.getD 0 + (appendFitting 0 n.whole).2.length -
    (n.fraction.length - (appendFitting (appendFitting 0 n.whole).1 n.fraction).2.length)

/-- What is kept of a numeral exceeds a bound for it by little. -/
theorem kept_le_of_atMost {bound : Nat} (strict : n.IsStrict) (small : n.AtMost bound)
    (upward : 0 ≤ n.keptExponent) :
    10 ^ 18 * (n.keptDigits * Nat.pow 10 n.keptExponent.toNat) ≤ (10 ^ 18 + 1) * bound := by
  have kept := kept_le strict
  obtain ⟨fewer, -⟩ := appendFitting_lt_pow strict.isDigit_of_mem_fraction
    (appendFitting 0 n.whole).1
  rw [keptExponent] at upward ⊢
  rw [AtMost] at small
  rw [keptDigits]
  generalize appendFitting 0 n.whole = whole at kept fewer upward ⊢
  generalize appendFitting whole.1 n.fraction = fraction at kept fewer upward ⊢
  generalize n.exponent.getD 0 = exponent at small upward ⊢
  have places : (exponent + whole.2.length - (n.fraction.length - fraction.2.length)).toNat +
      (n.fraction.length + (-exponent).toNat) =
        whole.2.length + fraction.2.length + exponent.toNat := by
    omega
  generalize (exponent + whole.2.length - (n.fraction.length - fraction.2.length)).toNat = zeros
    at places ⊢
  -- Both sides are compared with the point moved behind all digits.
  have positive : 0 < 10 ^ (n.fraction.length + (-exponent).toNat) := Nat.pow_pos (by decide)
  refine Nat.le_of_mul_le_mul_right ?_ positive
  calc 10 ^ 18 * (fraction.1 * 10 ^ zeros) * 10 ^ (n.fraction.length + (-exponent).toNat)
      = 10 ^ 18 * (fraction.1 * 10 ^ (zeros + (n.fraction.length + (-exponent).toNat))) := by
        rw [Nat.pow_add 10 zeros]
        ring
    _ = 10 ^ 18 * (fraction.1 * 10 ^ (whole.2.length + fraction.2.length)) *
          10 ^ exponent.toNat := by
        rw [places, Nat.pow_add 10 (_ + _)]
        ring
    _ ≤ (10 ^ 18 + 1) * n.digits * 10 ^ exponent.toNat := Nat.mul_le_mul_right _ kept
    _ = (10 ^ 18 + 1) * (n.digits * 10 ^ exponent.toNat) := Nat.mul_assoc _ _ _
    _ ≤ (10 ^ 18 + 1) * (bound * 10 ^ (n.fraction.length + (-exponent).toNat)) :=
        Nat.mul_le_mul_left _ small
    _ = (10 ^ 18 + 1) * bound * 10 ^ (n.fraction.length + (-exponent).toNat) :=
        (Nat.mul_assoc _ _ _).symm

/-- A numeral is read as what is kept of it, with its sign. -/
theorem toBinary64?_eq (n : Numeral) :
    n.toBinary64? = (scale? n.keptDigits n.keptExponent).map fun x =>
      if n.negative then x.neg else x := rfl

/-- A number is read as a binary64 one if, as it is written, it is no more than the greatest of
these cut off behind fifteen digits. -/
theorem exists_real? (strict : n.IsStrict)
    (small : n.AtMost (179769313486231 * Nat.pow 10 294)) : ∃ x, n.real? = some x := by
  obtain ⟨x, scaled⟩ : ∃ x, scale? n.keptDigits n.keptExponent = some x :=
    exists_scale? (kept_le_of_atMost strict small)
  rw [real?, value?, toBinary64?_eq, scaled]
  cases n.toInteger? <;> exact ⟨_, rfl⟩

end Finite

/-! ## Short numbers are read as they are written -/

section Exact

open Binary64

variable {x : Binary64}

/-- A numeral stands for a finite binary64 number: it has the sign of the number, and the absolute
value that is written is that of the number. -/
structure Denotes (n : Numeral) (x : Binary64) : Prop where
  /-- The number is finite. -/
  finite : x.isFinite = true
  /-- A minus is written where the number has its sign set. -/
  sign : x.isNegative = n.negative
  /-- The absolute values are the same, with the point moved behind all digits. -/
  size : x.units * Nat.pow 10 (n.fraction.length + (-n.exponent.getD 0).toNat) =
    n.digits * Nat.pow 10 (n.exponent.getD 0).toNat * unitsPerOne

/-- The power of ten by which the digits of a numeral are multiplied. -/
def scale (n : Numeral) : Int := n.exponent.getD 0 - n.fraction.length

/-- A numeral is short when neither its digits nor the power of ten behind them are rounded. -/
structure IsShort (n : Numeral) : Prop where
  /-- The digits are a number of no more than 53 binary digits. -/
  digits_le : n.digits ≤ 9007199254740992
  /-- The point is not moved far to the left. -/
  least_le : -22 ≤ n.scale
  /-- The point is not moved far to the right. -/
  le_greatest : n.scale ≤ 22

/-- A number does not get smaller with more digits behind it. -/
theorem le_ofDigitChars (digits : List Char) (start : Nat) :
    start ≤ Nat.ofDigitChars 10 digits start := by
  have power : 0 < 10 ^ digits.length := Nat.pow_pos (by decide)
  rw [Nat.ofDigitChars_eq_ofDigitChars_zero]
  exact Nat.le_trans (Nat.le_mul_of_pos_left _ power) (Nat.le_add_right _ _)

/-- All digits are kept of a number that fits an unsigned 64-bit word. -/
theorem appendFitting_of_lt {digits : List Char} {start : Nat}
    (fits : Nat.ofDigitChars 10 digits start < UInt64.size) :
    appendFitting start digits = (Nat.ofDigitChars 10 digits start, []) := by
  induction digits generalizing start with
  | nil => rfl
  | cons c rest ih =>
    have more : Nat.ofDigitChars 10 (c :: rest) start =
        Nat.ofDigitChars 10 rest (Nat.ofDigitChars 10 [c] start) := by
      simp only [Nat.ofDigitChars_cons, Nat.ofDigitChars_nil]
    rw [more] at fits ⊢
    have next := Nat.lt_of_le_of_lt (le_ofDigitChars rest _) fits
    rw [appendFitting, if_pos next]
    exact ih fits

/-- Of a short numeral all digits are kept. -/
theorem IsShort.kept (short : n.IsShort) :
    n.keptDigits = n.digits ∧ n.keptExponent = n.scale := by
  have sum : n.digits = Nat.ofDigitChars 10 n.fraction (Nat.ofDigitChars 10 n.whole 0) := by
    rw [digits, Nat.ofDigitChars_append]
  have fits : n.digits < UInt64.size := Nat.lt_of_le_of_lt short.digits_le (by decide)
  have front : Nat.ofDigitChars 10 n.whole 0 ≤ n.digits := by
    rw [sum]
    exact le_ofDigitChars n.fraction _
  have whole := appendFitting_of_lt (Nat.lt_of_le_of_lt front fits)
  have fraction : appendFitting (Nat.ofDigitChars 10 n.whole 0) n.fraction = (n.digits, []) := by
    rw [sum]
    exact appendFitting_of_lt (sum ▸ fits)
  rw [keptDigits, keptExponent, whole, fraction, scale]
  exact ⟨rfl, by simp⟩

/-- Few digits divided by a small power of ten come to the finite number that they are. -/
theorem divideByPower_of_units {digits exponent : Nat} (few : digits ≤ 9007199254740992)
    (small : exponent ≤ 22) (finite : x.isFinite = true)
    (same : x.units * Nat.pow 10 exponent = digits * unitsPerOne) :
    (divideByPower (.ofNat digits) exponent).isNegative = false ∧
      (divideByPower (.ofNat digits) exponent).magnitude = x.magnitude := by
  have units : (Binary64.ofNat digits).units = digits * unitsPerOne := units_ofNat_of_le few
  have power : (powerOfTen exponent).units = Nat.pow 10 exponent * unitsPerOne :=
    units_powerOfTen small
  have nonzero : 0 < (powerOfTen exponent).units := by
    rw [power]
    exact Nat.mul_pos (Nat.pow_pos (by decide)) unitsPerOne_pos
  rw [divideByPower, if_pos (by omega)]
  constructor
  · rw [isNegative_div, powerOfTen, isNegative_ofNat, isNegative_ofNat]
    rfl
  · refine magnitude_div_of_units finite nonzero ?_
    rw [units, power, ← same]
    ring

/-- Few digits times a small power of ten come to the finite number that they are. -/
theorem mul_powerOfTen_of_units {digits exponent : Nat} (few : digits ≤ 9007199254740992)
    (small : exponent ≤ 22) (finite : x.isFinite = true)
    (same : x.units = digits * Nat.pow 10 exponent * unitsPerOne) :
    ((Binary64.ofNat digits).mul (powerOfTen exponent)).isNegative = false ∧
      ((Binary64.ofNat digits).mul (powerOfTen exponent)).magnitude = x.magnitude := by
  have units : (Binary64.ofNat digits).units = digits * unitsPerOne := units_ofNat_of_le few
  have power : (powerOfTen exponent).units = Nat.pow 10 exponent * unitsPerOne :=
    units_powerOfTen small
  constructor
  · rw [isNegative_mul, powerOfTen, isNegative_ofNat, isNegative_ofNat]
    rfl
  · refine magnitude_mul_of_units finite ?_
    rw [units, power, same]
    ring

/-- Few digits and a small power of ten come to the finite number that they are. -/
theorem exists_scale?_of_units {digits : Nat} {exponent : Int} (few : digits ≤ 9007199254740992)
    (least : -22 ≤ exponent) (greatest : exponent ≤ 22) (finite : x.isFinite = true)
    (same : x.units * Nat.pow 10 (-exponent).toNat =
      digits * Nat.pow 10 exponent.toNat * unitsPerOne) :
    ∃ y, scale? digits exponent = some y ∧ y.isNegative = false ∧ y.magnitude = x.magnitude := by
  have one : Nat.pow 10 0 = 1 := rfl
  unfold scale?
  dsimp only
  split
  · rename_i nothing
    subst nothing
    have zero : x.units = 0 := by
      rw [Nat.zero_mul, Nat.zero_mul] at same
      exact (Nat.mul_eq_zero.1 same).resolve_right (Nat.ne_of_gt (Nat.pow_pos (by decide)))
    have units : (Binary64.ofNat 0).units = x.units :=
      (units_ofNat_of_le few).trans ((Nat.zero_mul _).trans zero.symm)
    exact ⟨_, rfl, isNegative_ofNat 0, magnitude_eq_of_units units⟩
  split
  · have downward : exponent.toNat = 0 := by omega
    rw [downward, one, Nat.mul_one] at same
    exact ⟨_, rfl, divideByPower_of_units few (by omega) finite same⟩
  · have upward : (-exponent).toNat = 0 := by omega
    rw [upward, one, Nat.mul_one] at same
    obtain ⟨plus, exact⟩ := mul_powerOfTen_of_units few (by omega) finite same
    have number : ((Binary64.ofNat digits).mul (powerOfTen exponent.toNat)).isFinite = true := by
      rw [isFinite_iff, exact]
      exact isFinite_iff.1 finite
    rw [if_neg (by omega), if_pos number]
    exact ⟨_, rfl, plus, exact⟩

/-- With the point in its place, the digits of a numeral are multiplied by its power of ten. -/
theorem Denotes.scaled (denotes : n.Denotes x) :
    x.units * Nat.pow 10 (-n.scale).toNat = n.digits * Nat.pow 10 n.scale.toNat * unitsPerOne := by
  have size := denotes.size
  rw [scale]
  generalize n.exponent.getD 0 = exponent at size ⊢
  generalize n.fraction.length = places at size ⊢
  -- Where the exponent and the places behind the point make up for each other, both sides have the
  -- same power of ten.
  have sum : (places + (-exponent).toNat) + (exponent - places).toNat =
      (-(exponent - places)).toNat + exponent.toNat := by omega
  have powers (m n : Nat) : Nat.pow 10 (m + n) = Nat.pow 10 m * Nat.pow 10 n := Nat.pow_add 10 m n
  have positive : 0 < Nat.pow 10 exponent.toNat := Nat.pow_pos (by decide)
  refine Nat.eq_of_mul_eq_mul_right positive ?_
  calc x.units * Nat.pow 10 (-(exponent - places)).toNat * Nat.pow 10 exponent.toNat
      = x.units * Nat.pow 10 (places + (-exponent).toNat) *
          Nat.pow 10 (exponent - places).toNat := by
        rw [Nat.mul_assoc, ← powers, ← sum, powers, Nat.mul_assoc]
    _ = n.digits * Nat.pow 10 (exponent - places).toNat * unitsPerOne *
          Nat.pow 10 exponent.toNat := by
        rw [size]
        ring

/-- A short numeral is read as the finite number that it stands for. -/
theorem real?_of_denotes (short : n.IsShort) (denotes : n.Denotes x) : n.real? = some x := by
  rw [real?, value?]
  cases integer : n.toInteger? with
  | some i =>
    -- An integer is rounded at once.
    obtain ⟨⟨fraction, exponent, whole, minus⟩, -⟩ := toInteger?_eq_some_iff.1 integer
    have digits : n.digits = i.natAbs := by
      rw [digits, fraction, List.append_nil, whole]
    have small : i.natAbs ≤ 9007199254740992 := digits ▸ short.digits_le
    have size : x.units = i.natAbs * unitsPerOne := by
      have size := denotes.size
      rw [fraction, exponent, digits] at size
      simpa using size
    have signs : (Binary64.ofInt i).isNegative = x.isNegative := by
      rw [denotes.sign, minus]
      exact isNegative_ofQuotient
    have units : (Binary64.ofInt i).units = x.units := by
      rw [units, Binary64.ofInt, magnitude_ofQuotient, unitsOf_nearest_of_le small, size]
    exact congrArg some (eq_of_magnitude signs (magnitude_eq_of_units units))
  | none =>
    obtain ⟨digits, exponent⟩ := short.kept
    obtain ⟨y, scaled, plus, same⟩ := exists_scale?_of_units short.digits_le short.least_le
      short.le_greatest denotes.finite denotes.scaled
    rw [toBinary64?_eq, digits, exponent, scaled, ← denotes.sign]
    exact congrArg some (signed_eq_of_magnitude plus same)

end Exact

end Numeral

end Troupe

/-!
# Wide words

What is computed from 64-bit words is held in signed words of 128 bits. Every operation is exact
arithmetic on integers; where its result is no wide word, it either stops with a fault or takes the
wide word that is nearest. Computations on the bytes of a text stop with a fault, too.
-/

namespace Troupe

/-- Why a computation stops. -/
inductive Fault where
  /-- The exact result of an operation is no word. -/
  | overflow
  /-- A text is cut inside a character or behind its end. -/
  | cut
deriving DecidableEq, Repr

namespace Wide

/-- The least wide word. -/
def least : Int := -0x80000000000000000000000000000000

/-- The greatest wide word. -/
def greatest : Int := 0x7FFFFFFFFFFFFFFFFFFFFFFFFFFFFFFF

end Wide

/-- A signed word of 128 bits. -/
@[ext] structure Wide where
  /-- Its value. -/
  toInt : Int
  /-- No word is less than the least one. -/
  least_le : Wide.least ≤ toInt
  /-- No word is greater than the greatest one. -/
  le_greatest : toInt ≤ Wide.greatest

namespace Wide

/-- The wide word with a given value. -/
def ofInt (n : Int) : Except Fault Wide :=
  if h : least ≤ n ∧ n ≤ greatest then .ok ⟨n, h.1, h.2⟩ else .error .overflow

/-- The wide word nearest to an integer. -/
def ofIntClamp (n : Int) : Wide where
  toInt := max least (min n greatest)
  least_le := Int.le_max_left _ _
  le_greatest := Int.max_le.2 ⟨by decide, Int.min_le_right _ _⟩

/-- A 64-bit word as a wide word. -/
def ofInt64 (n : Int64) : Wide where
  toInt := n.toInt
  least_le := Int.le_trans (by decide) n.minValue_le_toInt
  le_greatest := Int.le_trans n.toInt_le (by decide)

/-- A byte as a wide word. -/
def ofUInt8 (n : UInt8) : Wide where
  toInt := n.toNat
  least_le := Int.le_trans (by decide) (Int.natCast_nonneg _)
  le_greatest := Int.le_trans (Int.ofNat_le.2 (Nat.le_of_lt n.toNat_lt)) (by decide)

/-- The sum of two wide words. -/
def add (a b : Wide) : Except Fault Wide := ofInt (a.toInt + b.toInt)

/-- The difference of two wide words. -/
def sub (a b : Wide) : Except Fault Wide := ofInt (a.toInt - b.toInt)

/-- A wide word with the opposite sign. -/
def neg (a : Wide) : Except Fault Wide := ofInt (-a.toInt)

/-- The wide word nearest to a sum. -/
def addClamp (a b : Wide) : Wide := ofIntClamp (a.toInt + b.toInt)

/-- The wide word nearest to a product. -/
def mulClamp (a b : Wide) : Wide := ofIntClamp (a.toInt * b.toInt)

/-- The nearest wide word lies between the least and the greatest one. -/
@[simp] theorem toInt_ofIntClamp (n : Int) :
    (ofIntClamp n).toInt = max least (min n greatest) := rfl

/-- A 64-bit word keeps its value. -/
@[simp] theorem toInt_ofInt64 (n : Int64) : (ofInt64 n).toInt = n.toInt := rfl

/-- A byte keeps its value. -/
@[simp] theorem toInt_ofUInt8 (n : UInt8) : (ofUInt8 n).toInt = n.toNat := rfl

/-- An integer within the bounds has its wide word. -/
theorem ofInt_eq_ok {n : Int} (low : least ≤ n) (high : n ≤ greatest) :
    ofInt n = .ok ⟨n, low, high⟩ := dif_pos ⟨low, high⟩

end Wide

end Troupe

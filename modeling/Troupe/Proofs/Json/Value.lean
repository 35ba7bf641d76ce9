import Troupe.Proofs.Json.Number
import Troupe.Proofs.Json.Record

/-!
# What texts, truth values and numbers are read from

Each reader takes exactly the trees that stand for what it reads. A text and a truth value have one
tree each. An integer is read from a numeral that is written as it is, a binary64 number from a
numeral that is read as it, and an alternative from its name, which may stand in an object by
itself.
-/

namespace Troupe

namespace Json

/-- A tree is an integer as it is written. -/
def Tree.IsInteger (t : Tree) (i : Int) : Prop := ∃ n, t = .number n ∧ n.IsInteger i

/-- A tree is a number that is read as a binary64 one. Whether a number is too large for one is told
after rounding, so among the greatest numbers, beyond fifteen digits, it depends on the spelling. -/
def Tree.IsReal (t : Tree) (x : Binary64) : Prop := ∃ n, t = .number n ∧ n.real? = some x

variable {room : Nat} {t : Tree}

/-- A short number is read as the finite number that it stands for, and as no other one. -/
theorem Tree.isReal_iff_of_denotes {n : Numeral} {x y : Binary64} (short : n.IsShort)
    (denotes : n.Denotes x) : (Tree.number n).IsReal y ↔ y = x := by
  have read : n.real? = some x := Numeral.real?_of_denotes short denotes
  constructor
  · rintro ⟨m, ⟨⟩, other⟩
    exact Option.some.inj (other.symm.trans read)
  · rintro rfl
    exact ⟨n, rfl, read⟩

/-- An integer is written as it is. -/
theorem Tree.isInteger_ofInt (i : Int) : (Tree.ofInt i).IsInteger i :=
  ⟨_, rfl, rfl, rfl, Nat.ofDigitChars_ten_toDigits, rfl⟩

/-- A key is a text. -/
theorem key_eq_ok_iff {name : String} : t.key = .ok name ↔ t = .ofString name := by
  unfold Tree.key
  split <;> simp_all [Tree.ofString, failFlawed]

/-- A text is read from itself. -/
theorem readText_eq_ok_iff {s : String} : readText room t = .ok s ↔ t = .ofString s := by
  unfold readText
  split
  · simp [Tree.ofString]
  · rename_i other
    refine ⟨fun read => absurd read (refuse_ne_ok _ _ _), ?_⟩
    rintro rfl
    exact absurd rfl (other s)

/-- A truth value is read from itself. -/
theorem readBool_eq_ok_iff {b : Bool} : readBool room t = .ok b ↔ t = .bool b := by
  unfold readBool
  split
  · simp
  · rename_i other
    refine ⟨fun read => absurd read (refuse_ne_ok _ _ _), ?_⟩
    rintro rfl
    exact absurd rfl (other b)

/-- An integer that fits is read from its numeral. -/
theorem readInteger_eq_ok_iff {α : Type} {expected : Expected} {fit? : Int → Option α} {a : α} :
    readInteger expected fit? room t = .ok a ↔
      ∃ n i, t = .number n ∧ n.value? = some (.integer i) ∧ fit? i = some a := by
  unfold readInteger
  constructor
  · intro read
    split at read
    · rename_i n
      split at read
      · rename_i i value
        split at read
        · rename_i word fits
          cases read
          exact ⟨n, i, rfl, value, fits⟩
        · cases read
      · exact absurd read (refuse_ne_ok _ _ _)
    · exact absurd read (refuse_ne_ok _ _ _)
  · rintro ⟨n, i, rfl, value, fits⟩
    simp only [value, fits]

/-- Which unsigned word has a given value. -/
theorem unsigned?_eq_some_iff {i : Int} {w : UInt64} : unsigned? i = some w ↔ i = w.toNat := by
  have below : w.toNat < UInt64.size := w.toNat_lt
  constructor
  · intro found
    rw [unsigned?] at found
    split at found
    · rename_i within
      cases found
      rw [UInt64.toNat_ofNat_of_lt' (by omega)]
      omega
    · cases found
  · rintro rfl
    rw [unsigned?, if_pos ⟨by omega, by omega⟩, Int.toNat_natCast, UInt64.ofNat_toNat]

/-- Which signed word has a given value. -/
theorem signed?_eq_some_iff {i : Int} {w : Int64} : signed? i = some w ↔ i = w.toInt := by
  have least : Int64.minValue.toInt = -9223372036854775808 := by decide
  have greatest : Int64.maxValue.toInt = 9223372036854775807 := by decide
  constructor
  · intro found
    rw [signed?] at found
    split at found
    · rename_i within
      cases found
      exact (Int64.toInt_ofInt_of_le (by omega) (by omega)).symm
    · cases found
  · rintro rfl
    rw [signed?, if_pos ⟨w.minValue_le_toInt, w.toInt_le⟩, Int64.ofInt_toInt]

/-- An unsigned word is read from its numeral. -/
theorem readUnsigned_eq_ok_iff {w : UInt64} :
    readUnsigned room t = .ok w ↔ t.IsInteger w.toNat := by
  have below : w.toNat < UInt64.size := w.toNat_lt
  have least : Int64.minValue.toInt = -9223372036854775808 := by decide
  rw [readUnsigned, readInteger_eq_ok_iff]
  simp only [unsigned?_eq_some_iff, Numeral.value_eq_integer_iff]
  constructor
  · rintro ⟨n, i, rfl, ⟨written, -⟩, rfl⟩
    exact ⟨n, rfl, written⟩
  · rintro ⟨n, rfl, written⟩
    exact ⟨n, _, rfl, ⟨written, by omega, by omega⟩, rfl⟩

/-- A signed word is read from its numeral. -/
theorem readSigned_eq_ok_iff {w : Int64} : readSigned room t = .ok w ↔ t.IsInteger w.toInt := by
  have below : w.toInt < UInt64.size := Int.lt_of_le_of_lt w.toInt_le (by decide)
  rw [readSigned, readInteger_eq_ok_iff]
  simp only [signed?_eq_some_iff, Numeral.value_eq_integer_iff]
  constructor
  · rintro ⟨n, i, rfl, ⟨written, -⟩, rfl⟩
    exact ⟨n, rfl, written⟩
  · rintro ⟨n, rfl, written⟩
    exact ⟨n, _, rfl, ⟨written, w.minValue_le_toInt, below⟩, rfl⟩

/-- A binary64 number is read from the numerals that are read as it. -/
theorem readReal_eq_ok_iff {x : Binary64} : readReal room t = .ok x ↔ t.IsReal x := by
  unfold readReal Tree.IsReal
  constructor
  · intro read
    split at read
    · rename_i n
      refine ⟨n, rfl, ?_⟩
      unfold Numeral.real?
      split at read
      · rename_i i value
        cases read
        rw [value]
        rfl
      · rename_i y value
        cases read
        rw [value]
        rfl
      · cases read
    · exact absurd read (refuse_ne_ok _ _ _)
  · rintro ⟨n, rfl, real⟩
    obtain ⟨value, found, same⟩ := Option.map_eq_some_iff.1 real
    simp only [found]
    cases value <;> exact congrArg Except.ok same

/-- An alternative is read from its name, or from an object with its name in front of `null` where
that may be opened. -/
theorem readAlternative_eq_ok_iff {α : Type} {alternatives : List (String × α)} {a : α} :
    readAlternative alternatives room t = .ok a ↔
      ∃ name, alternatives.lookup name = some a ∧
        (t = .ofString name ∨ 0 < room ∧ t = .ofFields [(name, .null)]) := by
  have picked (name : String) :
      pickAlternative alternatives name = .ok a ↔ alternatives.lookup name = some a := by
    unfold pickAlternative
    cases alternatives.lookup name <;> simp [failMismatched]
  constructor
  · intro read
    unfold readAlternative at read
    split at read
    · rename_i name
      exact ⟨name, (picked name).1 read, .inl rfl⟩
    · cases read
    · cases read
    · cases read
    · cases read
    · rename_i inside key value rest ending
      obtain ⟨name, named, read⟩ := bind_eq_ok.1 read
      obtain ⟨found, known, read⟩ := bind_eq_ok.1 read
      dsimp only at read
      split at read
      · split at read
        · obtain ⟨⟨⟩, -, read⟩ := bind_eq_ok.1 read
          obtain ⟨⟨⟩, closed, same⟩ := bind_eq_ok.1 read
          cases same
          cases ending with
          | none =>
            obtain rfl := key_eq_ok_iff.1 named
            exact ⟨name, (picked name).1 known, .inr ⟨Nat.succ_pos _, rfl⟩⟩
          | some flaw => cases closed
        · cases read
      · obtain ⟨⟨⟩, refused, -⟩ := bind_eq_ok.1 read
        exact absurd refused (refuse_ne_ok _ _ _)
    · cases read
  · rintro ⟨name, known, rfl | ⟨opens, rfl⟩⟩
    · exact (picked name).2 known
    · obtain ⟨inside, rfl⟩ := Nat.exists_eq_add_one.2 opens
      exact bind_eq_ok.2 ⟨name, rfl, bind_eq_ok.2 ⟨a, (picked name).2 known, rfl⟩⟩

/-- Under a name of its own, each alternative is found. -/
theorem lookup_map_eq_some_iff {α : Type} {all : List α} {name : α → String} {key : String} {a : α}
    (distinct : (all.map name).Nodup) :
    (all.map fun a => (name a, a)).lookup key = some a ↔ a ∈ all ∧ name a = key := by
  induction all with
  | nil => simp
  | cons first rest ih =>
    obtain ⟨apart, others⟩ := List.nodup_cons.1 distinct
    rw [List.map_cons, List.lookup_cons, List.mem_cons]
    by_cases same : key = name first
    · subst same
      rw [beq_self_eq_true]
      constructor
      · rintro ⟨⟩
        exact ⟨.inl rfl, rfl⟩
      · rintro ⟨rfl | member, named⟩
        · rfl
        · exact absurd (named ▸ List.mem_map_of_mem member) apart
    · rw [beq_false_of_ne same]
      refine (ih others).trans (and_congr_left fun named => ?_)
      refine (or_iff_right ?_).symm
      rintro rfl
      exact same named.symm

/-- An alternative with a name of its own is read from its name. -/
theorem readAlternative_map_eq_ok_iff {α : Type} {all : List α} {name : α → String} {a : α}
    (distinct : (all.map name).Nodup) :
    readAlternative (all.map fun a => (name a, a)) room t = .ok a ↔
      a ∈ all ∧ (t = .ofString (name a) ∨ 0 < room ∧ t = .ofFields [(name a, .null)]) := by
  rw [readAlternative_eq_ok_iff]
  simp only [lookup_map_eq_some_iff distinct]
  constructor
  · rintro ⟨-, ⟨member, rfl⟩, layout⟩
    exact ⟨member, layout⟩
  · rintro ⟨member, layout⟩
    exact ⟨name a, ⟨member, rfl⟩, layout⟩

/-- Every signed word is read as it is written. -/
theorem readSigned_ofInt (room : Nat) (w : Int64) : readSigned room (.ofInt w.toInt) = .ok w := by
  have below : w.toInt < UInt64.size := Int.lt_of_le_of_lt w.toInt_le (by decide)
  have value := Numeral.value_ofInt w.minValue_le_toInt below
  exact readSigned_eq_ok_iff.2 ⟨_, rfl, (Numeral.value_eq_integer_iff.1 value).1⟩

end Json

end Troupe

import Troupe.Json.Parser

/-!
# How numbers are spelled

A number has digits before its point and no zero in front of them; `Numeral.IsStrict` says so. Its
exponent is spelled in several ways, with either mark, with or without a sign, and with zeros in
front. The parser reads exactly the numbers that are spelled so, up to the first character that
cannot go on a number, and the writer spells each number in one of these ways.
-/

namespace Troupe

/-- Only the two zeros have no magnitude. -/
theorem Binary64.zero_of_magnitude {x : Binary64} (nothing : x.magnitude = 0) :
    x = ⟨0⟩ ∨ x = ⟨0x8000000000000000⟩ := by
  have multiple : x.bits.toNat % 0x8000000000000000 = 0 := nothing
  have word := x.bits.toNat_lt
  have bits : x.bits.toNat = 0 ∨ x.bits.toNat = 0x8000000000000000 := by omega
  refine bits.imp (fun zero => ?_) fun sign => ?_
  · exact congrArg Binary64.mk (UInt64.toNat_inj.1 zero)
  · exact congrArg Binary64.mk (UInt64.toNat_inj.1 sign)

namespace Numeral

variable {n : Numeral}

/-- A numeral as documents have it. -/
structure IsStrict (n : Numeral) : Prop where
  /-- There is a digit before the point. -/
  whole_ne_nil : n.whole ≠ []
  /-- Before the point there are only digits. -/
  isDigit_of_mem_whole : ∀ c ∈ n.whole, c.isDigit = true
  /-- A zero is not followed by another digit before the point. -/
  unpadded : ∀ next rest, n.whole ≠ '0' :: next :: rest
  /-- Behind the point there are only digits. -/
  isDigit_of_mem_fraction : ∀ c ∈ n.fraction, c.isDigit = true

/-- The digits behind the point as they are written, with the point if there are any. -/
def fractionChars (n : Numeral) : List Char :=
  if n.fraction.isEmpty then [] else '.' :: n.fraction

/-- The sign as it is written. -/
def signChars (n : Numeral) : List Char := if n.negative then ['-'] else []

/-- The sign of an exponent, and whether it is a minus. -/
inductive SpellsSign : List Char → Bool → Prop where
  /-- No sign. -/
  | absent : SpellsSign [] false
  /-- A plus. -/
  | plus : SpellsSign ['+'] false
  /-- A minus. -/
  | minus : SpellsSign ['-'] true

/-- What stands behind the digits of a number, and the exponent it is spelled for. -/
inductive SpellsExponent : List Char → Option Int → Prop where
  /-- No exponent. -/
  | absent : SpellsExponent [] none
  /-- A mark, a sign and digits. -/
  | present {mark : Char} {sign digits : List Char} {negative : Bool}
    (isMark : mark = 'e' ∨ mark = 'E') (signs : SpellsSign sign negative) (nonempty : digits ≠ [])
    (all : ∀ c ∈ digits, c.isDigit = true) :
    SpellsExponent (mark :: (sign ++ digits))
      (some (let size : Int := Nat.ofDigitChars 10 digits 0
        if negative then -size else size))

/-- A text without a sign, and the number it is spelled for, which has its sign besides. -/
def SpellsUnsigned (s : List Char) (n : Numeral) : Prop :=
  n.IsStrict ∧ ∃ exponent, SpellsExponent exponent n.exponent ∧
    s = n.whole ++ n.fractionChars ++ exponent

/-- A text, and the number it is spelled for. -/
def Spells (s : List Char) (n : Numeral) : Prop :=
  ∃ behind, SpellsUnsigned behind n ∧ s = n.signChars ++ behind

/-! ## Written numbers -/

/-- An exponent is spelled as it is written. -/
theorem spellsExponent_exponentText (exponent : Option Int) :
    SpellsExponent ((exponent.map exponentText).getD []) exponent := by
  cases exponent with
  | none => exact .absent
  | some e =>
    have all : ∀ c ∈ Nat.toDigits 10 e.natAbs, c.isDigit = true :=
      fun c member => Nat.isDigit_of_mem_toDigits (by decide) (by decide) member
    have size : Nat.ofDigitChars 10 (Nat.toDigits 10 e.natAbs) 0 = e.natAbs :=
      Nat.ofDigitChars_ten_toDigits
    rw [Option.map_some, Option.getD_some, exponentText]
    by_cases negative : e < 0
    · have spells := SpellsExponent.present (.inl rfl) .minus Nat.toDigits_ne_nil all
      have same : -(e.natAbs : Int) = e := by omega
      simp only [size, same, if_true] at spells
      rwa [if_pos negative]
    · have spells := SpellsExponent.present (.inl rfl) .plus Nat.toDigits_ne_nil all
      have same : (e.natAbs : Int) = e := by omega
      simp only [size, same, Bool.false_eq_true, if_false] at spells
      rwa [if_neg negative]

/-- A number is spelled as it is written. -/
theorem IsStrict.spells_toChars (strict : n.IsStrict) : Spells n.toChars n :=
  ⟨_, ⟨strict, _, spellsExponent_exponentText n.exponent, rfl⟩, by
    simp [toChars, signChars, fractionChars]⟩

/-- The decimal digits of a positive number do not start with a zero. -/
theorem toDigits_ne_zero_cons {k : Nat} (positive : 0 < k) (rest : List Char) :
    Nat.toDigits 10 k ≠ '0' :: rest := by
  -- The first digit of a number is that of its tenth, as long as there are two digits or more.
  induction k using Nat.strongRecOn generalizing rest with
  | ind k ih =>
    rw [Nat.toDigits_eq_if (by decide)]
    split
    · rename_i small
      intro same
      obtain ⟨head, -⟩ := List.cons.inj same
      have digits : ∀ k < 10, 0 < k → Nat.digitChar k ≠ '0' := by decide
      exact digits k small positive head
    · have shorter := ih (k / 10) (by omega) (by omega)
      obtain ⟨first, others, front⟩ := List.exists_cons_of_ne_nil
        (Nat.toDigits_ne_nil (b := 10) (n := k / 10))
      rw [front] at shorter ⊢
      intro same
      obtain ⟨rfl, -⟩ := List.cons.inj same
      exact shorter others rfl

/-- An integer is written as documents have it. -/
theorem isStrict_ofInt (i : Int) : (ofInt i).IsStrict where
  whole_ne_nil := Nat.toDigits_ne_nil
  isDigit_of_mem_whole _ member := Nat.isDigit_of_mem_toDigits (by decide) (by decide) member
  unpadded next rest same := by
    obtain zero | positive := Nat.eq_zero_or_pos i.natAbs
    · simp [ofInt, zero] at same
    · exact toDigits_ne_zero_cons positive _ same
  isDigit_of_mem_fraction _ member := nomatch member

/-- An integer of a word, signed or not, is read as itself. -/
theorem value_ofInt {i : Int} (least : Int64.minValue.toInt ≤ i) (most : i < UInt64.size) :
    (ofInt i).value? = some (.integer i) := by
  have size : Nat.ofDigitChars 10 (ofInt i).whole 0 = i.natAbs := Nat.ofDigitChars_ten_toDigits
  have lowest : Int64.minValue.toInt = -9223372036854775808 := by decide
  have integer : (ofInt i).toInteger? = some i := by
    have whole : (!(ofInt i).fraction.isEmpty || (ofInt i).exponent.isSome) = false := rfl
    simp only [toInteger?, size, whole, Bool.false_eq_true, if_false]
    by_cases negative : i < 0
    · have sign : (ofInt i).negative = true := decide_eq_true negative
      rw [if_pos sign, if_pos ⟨by omega, by omega⟩]
      exact congrArg some (by omega)
    · have sign : (ofInt i).negative = false := decide_eq_false negative
      rw [if_neg (by simp [sign]), if_pos (by omega)]
      exact congrArg some (by omega)
  rw [value?, integer]

/-- Zero is written as documents have it, with either sign. -/
theorem isStrict_numeral {x : Binary64} (zero : x.magnitude = 0) :
    (documentStyle.numeral x).IsStrict := by
  rw [DecimalStyle.numeral, if_pos zero]
  constructor <;> simp [DecimalStyle.integerFraction, documentStyle]

/-- Zero keeps its sign when it is read back. -/
theorem value_numeral {x : Binary64} (zero : x.magnitude = 0) :
    (documentStyle.numeral x).value? = some (.real x) := by
  obtain rfl | rfl := Binary64.zero_of_magnitude zero <;> decide +kernel

/-! ## Where a number ends -/

/-- A character that can go on a number. -/
def goesOn (c : Char) : Bool := c.isDigit || c = '.' || c = 'e' || c = 'E'

/-- A text that cannot go on a number. -/
def Stops (rest : List Char) : Prop := ∀ c ∈ rest.head?, goesOn c = false

/-- An exponent starts with its mark. -/
theorem SpellsExponent.head_append {s rest : List Char} {exponent : Option Int}
    (spells : SpellsExponent s exponent) (stops : Stops rest) :
    ∀ c ∈ (s ++ rest).head?, c.isDigit = false ∧ c ≠ '.' := by
  cases spells with
  | absent =>
    intro c head
    have other := stops c head
    simp only [goesOn, Bool.or_eq_false_iff, decide_eq_false_iff_not] at other
    exact other.1.1
  | present isMark => obtain rfl | rfl := isMark <;> simp

/-- The digits behind the point start with the point. -/
theorem head_fractionChars_append {rest : List Char}
    (stops : ∀ c ∈ rest.head?, c.isDigit = false) :
    ∀ c ∈ (n.fractionChars ++ rest).head?, c.isDigit = false := by
  unfold fractionChars
  split
  · exact stops
  · simp

end Numeral

/-- What is found in two steps is found in each of them. -/
theorem Json.bind_eq_ok {ε α β : Type} {first : Except ε α} {next : α → Except ε β} {b : β} :
    first >>= next = .ok b ↔ ∃ a, first = .ok a ∧ next a = .ok b := by
  cases first <;> simp [bind, Except.bind]

namespace Json.Parsed

open Numeral

variable {n : Numeral} {s rest : List Char}

/-! ## Spelled numbers are read -/

/-- Digits are read up to the first character that is none. -/
theorem digits_append {found : List Char} (nonempty : found ≠ [])
    (all : ∀ c ∈ found, c.isDigit = true) (stops : ∀ c ∈ rest.head?, c.isDigit = false) :
    digits (found ++ rest) = .ok (found, rest) := by
  have stop : rest.takeWhile Char.isDigit = [] ∧ rest.dropWhile Char.isDigit = rest := by
    cases rest with
    | nil => exact ⟨rfl, rfl⟩
    | cons c rest =>
      have other : c.isDigit = false := stops c rfl
      simp [other]
  have taken : (found ++ rest).takeWhile Char.isDigit = found := by
    rw [List.takeWhile_append_of_pos all, stop.1, List.append_nil]
  have left : (found ++ rest).dropWhile Char.isDigit = rest := by
    rw [List.dropWhile_append_of_pos all, stop.2]
  obtain ⟨first, others, rfl⟩ := List.exists_cons_of_ne_nil nonempty
  simp only [digits, taken, left]

/-- The digits before the point are read. -/
theorem wholeDigits_append (strict : n.IsStrict) (stops : ∀ c ∈ rest.head?, c.isDigit = false) :
    wholeDigits (n.whole ++ rest) = .ok (n.whole, rest) := by
  have read := digits_append strict.whole_ne_nil strict.isDigit_of_mem_whole stops
  simp only [wholeDigits, read, bind, Except.bind]
  split
  · rename_i same
    exact absurd same (strict.unpadded _ _)
  · rfl

/-- The digits behind the point are read. -/
theorem fractionDigits_append (strict : n.IsStrict)
    (stops : ∀ c ∈ rest.head?, c.isDigit = false ∧ c ≠ '.') :
    fractionDigits (n.fractionChars ++ rest) = .ok (n.fraction, rest) := by
  unfold fractionChars
  split
  · rename_i empty
    rw [List.isEmpty_iff.1 empty]
    cases rest with
    | nil => rfl
    | cons c rest => simp [fractionDigits, (stops c rfl).2]
  · rename_i nonempty
    exact digits_append (by simpa using nonempty) strict.isDigit_of_mem_fraction
      fun c head => (stops c head).1

/-- A sign is split off what starts with a digit. -/
theorem splitSign_append {sign : List Char} {negative : Bool} (signs : SpellsSign sign negative)
    {digits : List Char} (nonempty : digits ≠ []) (all : ∀ c ∈ digits, c.isDigit = true) :
    splitSign (sign ++ (digits ++ rest)) = (negative, digits ++ rest) := by
  cases signs with
  | plus | minus => rfl
  | absent =>
    obtain ⟨first, others, rfl⟩ := List.exists_cons_of_ne_nil nonempty
    have digit : first.isDigit = true := all first List.mem_cons_self
    simp only [List.nil_append, List.cons_append, splitSign]
    split
    · rename_i same
      obtain ⟨rfl, -⟩ := List.cons.inj same
      exact absurd digit (by decide)
    · rename_i same
      obtain ⟨rfl, -⟩ := List.cons.inj same
      exact absurd digit (by decide)
    · rfl

/-- The exponent is read. -/
theorem exponentPart_append {exponent : Option Int} (spells : SpellsExponent s exponent)
    (stops : Stops rest) : exponentPart (s ++ rest) = .ok (exponent, rest) := by
  cases spells with
  | absent =>
    cases rest with
    | nil => rfl
    | cons c rest =>
      have other : goesOn c = false := stops c rfl
      simp only [goesOn, Bool.or_eq_false_iff, decide_eq_false_iff_not] at other
      simp [exponentPart, other]
  | @present mark sign found negative isMark signs nonempty all =>
    have noDigit : ∀ c ∈ rest.head?, c.isDigit = false := by
      intro c head
      have other := stops c head
      simp only [goesOn, Bool.or_eq_false_iff] at other
      exact other.1.1.1
    have read := digits_append nonempty all noDigit
    have split : splitSign (sign ++ (found ++ rest)) = (negative, found ++ rest) :=
      splitSign_append signs nonempty all
    rw [List.cons_append, List.append_assoc, exponentPart, if_pos isMark]
    simp only [split, read, bind, Except.bind]

/-- A spelled number is read where what follows cannot go on a number. -/
theorem numeral_append (spells : SpellsUnsigned s n) (stops : Stops rest) :
    numeral n.negative (s ++ rest) = .ok (n, rest) := by
  obtain ⟨strict, exponent, spelled, rfl⟩ := spells
  have mark := spelled.head_append stops
  have point := head_fractionChars_append (n := n) fun c head => (mark c head).1
  have exponent := exponentPart_append spelled stops
  have fraction := fractionDigits_append strict mark
  have whole := wholeDigits_append strict point
  rw [List.append_assoc, List.append_assoc]
  simp only [numeral, whole, fraction, exponent, bind, Except.bind]

/-! ## Numbers that are read are spelled -/

/-- Digits that are read stand at the start of the text. -/
theorem of_digits_eq_ok {found : List Char} (read : digits s = .ok (found, rest)) :
    s = found ++ rest ∧ found ≠ [] ∧ ∀ c ∈ found, c.isDigit = true := by
  unfold digits at read
  split at read
  · cases read
  · cases read
  · rename_i text _ _ noText noDigit
    cases read
    refine ⟨List.takeWhile_append_dropWhile.symm, fun none => ?_,
      fun c member => List.all_eq_true.1 List.all_takeWhile c member⟩
    cases text with
    | nil => exact noText none rfl
    | cons c after => exact noDigit c after none rfl

/-- The digits before the point stand at the start of the text. -/
theorem of_wholeDigits_eq_ok {found : List Char} (read : wholeDigits s = .ok (found, rest)) :
    s = found ++ rest ∧ found ≠ [] ∧ (∀ c ∈ found, c.isDigit = true) ∧
      ∀ next others, found ≠ '0' :: next :: others := by
  obtain ⟨⟨digits, left⟩, here, unpadded⟩ := bind_eq_ok.1 read
  obtain ⟨rfl, nonempty, all⟩ := of_digits_eq_ok here
  simp only at unpadded
  split at unpadded
  · cases unpadded
  · rename_i apart
    cases unpadded
    exact ⟨rfl, nonempty, all, apart⟩

/-- The digits behind the point stand behind it, if there are any. -/
theorem of_fractionDigits_eq_ok {found : List Char} (read : fractionDigits s = .ok (found, rest)) :
    s = (if found.isEmpty then [] else '.' :: found) ++ rest ∧ ∀ c ∈ found, c.isDigit = true := by
  unfold fractionDigits at read
  split at read
  · obtain ⟨rfl, nonempty, all⟩ := of_digits_eq_ok read
    exact ⟨by simp [nonempty], all⟩
  · cases read
    exact ⟨rfl, nofun⟩

/-- A sign that is split off stands at the start of the text. -/
theorem exists_sign_of_splitSign {negative : Bool} (split : splitSign s = (negative, rest)) :
    ∃ sign, SpellsSign sign negative ∧ s = sign ++ rest := by
  unfold splitSign at split
  split at split
  all_goals
    cases split
  · exact ⟨_, .minus, rfl⟩
  · exact ⟨_, .plus, rfl⟩
  · exact ⟨_, .absent, rfl⟩

/-- An exponent that is read is spelled at the start of the text. -/
theorem exists_spells_of_exponentPart {exponent : Option Int}
    (read : exponentPart s = .ok (exponent, rest)) :
    ∃ found, SpellsExponent found exponent ∧ s = found ++ rest := by
  unfold exponentPart at read
  split at read
  · rename_i mark after
    split at read
    · rename_i isMark
      obtain ⟨⟨found, left⟩, here, same⟩ := bind_eq_ok.1 read
      obtain ⟨digits, nonempty, all⟩ := of_digits_eq_ok here
      obtain ⟨sign, signs, front⟩ := exists_sign_of_splitSign (s := after) rfl
      cases same
      refine ⟨_, .present isMark signs nonempty all, ?_⟩
      rw [front, digits, List.cons_append, List.append_assoc]
    · cases read
      exact ⟨[], .absent, rfl⟩
  · cases read
    exact ⟨[], .absent, rfl⟩

/-- A number that is read is spelled at the start of the text. -/
theorem exists_spells_of_numeral {negative : Bool} (read : numeral negative s = .ok (n, rest)) :
    n.negative = negative ∧ ∃ found, SpellsUnsigned found n ∧ s = found ++ rest := by
  obtain ⟨⟨whole, afterWhole⟩, first, read⟩ := bind_eq_ok.1 read
  obtain ⟨⟨fraction, afterFraction⟩, second, read⟩ := bind_eq_ok.1 read
  obtain ⟨⟨exponent, left⟩, third, same⟩ := bind_eq_ok.1 read
  cases same
  obtain ⟨rfl, nonempty, all, unpadded⟩ := of_wholeDigits_eq_ok first
  obtain ⟨rfl, behind⟩ := of_fractionDigits_eq_ok second
  obtain ⟨found, spells, rfl⟩ := exists_spells_of_exponentPart third
  exact ⟨rfl, _, ⟨⟨nonempty, all, unpadded, behind⟩, found, spells, rfl⟩, by
    simp [fractionChars]⟩

end Json.Parsed

end Troupe

import Mathlib.Algebra.Order.Ring.Nat
import Troupe.Proofs.Json.Quoted
import Troupe.Sprite.Identity

/-!
# How identities are spelled

An identity is spelled by its thirty-two digits, with letters in either case: the digits alone, with
hyphens between their groups, and so within braces or behind the prefix of a resource name. These
are the texts that it is read from (`SpriteId.ofText?_eq_some_iff`), and its own text is one of
them.
-/

namespace Troupe

open Json

namespace SpriteId

/-! ## Hexadecimal numbers -/

/-- Digits of numbers are told apart by any of their values. -/
theorem foldl_inj {xs ys : List Nat} {a b : Nat} (size : xs.length = ys.length)
    (small : ∀ x ∈ xs, x < 16) (small' : ∀ y ∈ ys, y < 16)
    (same : xs.foldl (16 * · + ·) a = ys.foldl (16 * · + ·) b) : a = b ∧ xs = ys := by
  induction xs generalizing ys a b with
  | nil =>
    obtain rfl := List.length_eq_zero_iff.1 size.symm
    exact ⟨same, rfl⟩
  | cons x xs ih =>
    cases ys with
    | nil => cases size
    | cons y ys =>
      obtain ⟨first, others⟩ := List.forall_mem_cons.1 small
      obtain ⟨first', others'⟩ := List.forall_mem_cons.1 small'
      obtain ⟨front, rfl⟩ := ih (Nat.succ.inj size) others others' same
      dsimp only at front
      obtain ⟨rfl, rfl⟩ : a = b ∧ x = y := by omega
      exact ⟨rfl, rfl⟩

/-- The values of the last digits of a number are those of its remainder. -/
theorem foldl_digits (n count : Nat) :
    ((List.range count).map fun i => n / 16 ^ (count - 1 - i) % 16).foldl (16 * · + ·) 0 =
      n % 16 ^ count := by
  induction count generalizing n with
  | zero => rw [Nat.pow_zero, Nat.mod_one]; rfl
  | succ count ih =>
    -- All digits but the last one are those of a sixteenth of the number.
    have front : ((List.range count).map fun i => n / 16 ^ (count - i) % 16) =
        (List.range count).map fun i => n / 16 / 16 ^ (count - 1 - i) % 16 := by
      refine List.map_congr_left fun i member => ?_
      have below : i < count := List.mem_range.1 member
      have place : count - i = count - 1 - i + 1 := by omega
      rw [place, Nat.pow_succ', Nat.div_div_eq_div_mul]
    rw [List.range_succ, List.map_append, List.foldl_append, Nat.add_sub_cancel, front, ih]
    simp only [List.map_cons, List.map_nil, List.foldl_cons, List.foldl_nil, Nat.sub_self,
      Nat.pow_zero, Nat.div_one]
    rw [Nat.pow_succ', Nat.mod_mul, Nat.add_comm]

/-- So many digits have a value that is no greater than they allow. -/
theorem foldl_lt {xs : List Nat} (small : ∀ x ∈ xs, x < 16) (a : Nat) :
    xs.foldl (16 * · + ·) a < (a + 1) * 16 ^ xs.length := by
  induction xs generalizing a with
  | nil => simp
  | cons x xs ih =>
    obtain ⟨first, others⟩ := List.forall_mem_cons.1 small
    calc xs.foldl (16 * · + ·) (16 * a + x) < (16 * a + x + 1) * 16 ^ xs.length := ih others _
      _ ≤ (a + 1) * 16 * 16 ^ xs.length := Nat.mul_le_mul_right _ (by omega)
      _ = (a + 1) * 16 ^ (xs.length + 1) := by rw [Nat.pow_succ', Nat.mul_assoc]

/-- The values of the digits of an identity. -/
def nibbles (id : SpriteId) : List Nat :=
  (List.range 32).map fun i => id.value.toNat / 16 ^ (32 - 1 - i) % 16

variable {id : SpriteId} {digits : List Char}

/-- The digits of an identity are its parts of four bits, as they are written. -/
theorem digits_eq (id : SpriteId) : id.digits = id.nibbles.map Nat.digitChar := by
  rw [nibbles, List.map_map]
  rfl

/-- A part of four bits is below sixteen. -/
theorem nibble_lt (id : SpriteId) : ∀ n ∈ id.nibbles, n < 16 :=
  List.forall_mem_map.2 fun _ _ => Nat.mod_lt _ (by decide)

/-- An identity has thirty-two parts of four bits. -/
theorem length_nibbles (id : SpriteId) : id.nibbles.length = 32 := by
  rw [nibbles, List.length_map, List.length_range]

/-- The parts of four bits make up the identity. -/
theorem foldl_nibbles (id : SpriteId) : id.nibbles.foldl (16 * · + ·) 0 = id.value.toNat := by
  have below : id.value.toNat < 16 ^ 32 := Nat.lt_of_lt_of_eq id.value.isLt (by decide)
  rw [nibbles, foldl_digits, Nat.mod_eq_of_lt below]

/-- Digits are characters of ASCII, and their values are below sixteen. -/
theorem lt_of_hexDigit? {c : Char} {n : Nat} (found : Quoted.hexDigit? c = some n) :
    c.toNat < 128 ∧ n < 16 := by
  have codes : '0'.toNat = 48 ∧ '9'.toNat = 57 ∧ 'a'.toNat = 97 ∧ 'f'.toNat = 102 ∧
      'A'.toNat = 65 ∧ 'F'.toNat = 70 := by decide
  have le_iff (a b : Char) : a ≤ b ↔ a.toNat ≤ b.toNat := Iff.rfl
  unfold Quoted.hexDigit? at found
  simp only [le_iff] at found
  split at found
  · cases found; omega
  split at found
  · cases found; omega
  split at found
  · cases found; omega
  · cases found

/-- The case of a letter does not take a character into ASCII. -/
theorem lt_of_toLower {c : Char} (low : c.toLower.toNat < 128) : c.toNat < 128 := by
  have codes : 'A'.toNat = 65 ∧ 'Z'.toNat = 90 := by decide
  have le_iff (a b : Char) : a ≤ b ↔ a.toNat ≤ b.toNat := Iff.rfl
  unfold Char.toLower at low
  split at low
  · rename_i upper
    have upper : 'A' ≤ c ∧ c ≤ 'Z' := upper
    simp only [le_iff] at upper
    omega
  · exact low

/-- Digits have values, in either case of letters. -/
theorem hexDigit?_eq_some_iff {c : Char} {n : Nat} :
    Quoted.hexDigit? c = some n ↔ n < 16 ∧ c.toLower = Nat.digitChar n := by
  have table : ∀ k < 128, ∀ n < 16, Quoted.hexDigit? (Char.ofNat k) = some n ↔
      (Char.ofNat k).toLower = Nat.digitChar n := by decide +kernel
  have digits : ∀ n < 16, (Nat.digitChar n).toNat < 128 := by decide
  have same (low : c.toNat < 128) (small : n < 16) :
      Quoted.hexDigit? c = some n ↔ c.toLower = Nat.digitChar n := by
    have entry := table c.toNat low n small
    rwa [Char.ofNat_toNat] at entry
  constructor
  · intro found
    obtain ⟨low, small⟩ := lt_of_hexDigit? found
    exact ⟨small, (same low small).1 found⟩
  · rintro ⟨small, lower⟩
    have low : c.toNat < 128 := lt_of_toLower (by rw [lower]; exact digits n small)
    exact (same low small).2 lower

/-- Characters have the values in a list when they are the digits for them, in either case. -/
theorem mapM_hexDigit?_eq_some_iff {values : List Nat} :
    digits.mapM Quoted.hexDigit? = some values ↔
      (∀ n ∈ values, n < 16) ∧ digits.map Char.toLower = values.map Nat.digitChar := by
  induction digits generalizing values with
  | nil => cases values <;> simp
  | cons c digits ih =>
    cases values with
    | nil => simp [List.mapM_cons, Option.bind_eq_some_iff]
    | cons n values =>
      simp only [List.mapM_cons, Option.bind_eq_bind, Option.pure_def, Option.bind_eq_some_iff,
        hexDigit?_eq_some_iff, ih, List.forall_mem_cons, List.map_cons, List.cons.injEq,
        Option.some.injEq]
      constructor
      · rintro ⟨m, ⟨small, lower⟩, others, ⟨each, lowers⟩, rfl, rfl⟩
        exact ⟨⟨small, each⟩, lower, lowers⟩
      · rintro ⟨⟨small, each⟩, lower, lowers⟩
        exact ⟨n, ⟨small, lower⟩, values, ⟨each, lowers⟩, rfl, rfl⟩

/-- What the digits of an identity are, in either case of letters, has thirty-two characters. -/
theorem length_of_toLower (lower : digits.map Char.toLower = id.digits) : digits.length = 32 := by
  have lengths := congrArg List.length lower
  rwa [List.length_map, digits_eq, List.length_map, length_nibbles] at lengths

/-! ## Layouts -/

/-- The identity with thirty-two digits is the one that has them, in either case of letters. -/
theorem ofDigits?_eq_some_iff :
    ofDigits? digits = some id ↔ digits.map Char.toLower = id.digits := by
  constructor
  · intro found
    obtain ⟨values, read, found⟩ := Option.bind_eq_some_iff.1 found
    split at found
    · rename_i count
      cases found
      obtain ⟨small, lower⟩ := mapM_hexDigit?_eq_some_iff.1 read
      have length : values.length = 32 := by
        have lengths := congrArg List.length lower
        rw [List.length_map, List.length_map] at lengths
        omega
      have below : values.foldl (16 * · + ·) 0 < 2 ^ 128 := by
        have bound := foldl_lt small 0
        rw [length] at bound
        exact Nat.lt_of_lt_of_eq bound (by decide)
      have same : values = (ofNat (values.foldl (16 * · + ·) 0)).nibbles := by
        refine (foldl_inj (a := 0) (b := 0) (length.trans (length_nibbles _).symm) small
          (nibble_lt _) ?_).2
        rw [foldl_nibbles, ofNat, BitVec.toNat_ofNat, Nat.mod_eq_of_lt below]
      rw [digits_eq, lower, ← same]
    · cases found
  · intro lower
    have length := length_of_toLower lower
    rw [digits_eq] at lower
    have read := mapM_hexDigit?_eq_some_iff.2 ⟨nibble_lt id, lower⟩
    refine Option.bind_eq_some_iff.2 ⟨_, read, ?_⟩
    rw [if_pos length, foldl_nibbles, ofNat, BitVec.ofNat_toNat, BitVec.setWidth_eq]

/-- Hyphens are taken out from where they stand, between groups that are not cut off. -/
theorem dehyphenate?_eq_some_iff {lengths : List Nat} {s : List Char} :
    dehyphenate? lengths s = some digits ↔
      s = hyphenate lengths digits ∧ lengths.sum ≤ digits.length := by
  induction lengths generalizing s digits with
  | nil => simp [dehyphenate?, hyphenate]
  | cons length lengths ih =>
    constructor
    · intro found
      unfold dehyphenate? at found
      split at found
      · rename_i rest behind
        obtain ⟨others, inner, rfl⟩ := Option.map_eq_some_iff.1 found
        obtain ⟨rfl, enough⟩ := ih.1 inner
        have front : (s.take length).length = length := by
          have lengths := congrArg List.length behind
          rw [List.length_drop, List.length_cons] at lengths
          rw [List.length_take]
          omega
        constructor
        · rw [hyphenate, List.take_left' front, List.drop_left' front, ← behind,
            List.take_append_drop]
        · rw [List.sum_cons, List.length_append, front]
          omega
      · cases found
    · rintro ⟨rfl, enough⟩
      rw [List.sum_cons] at enough
      have front : (digits.take length).length = length := by
        rw [List.length_take]
        omega
      have inner : dehyphenate? lengths (hyphenate lengths (digits.drop length)) =
          some (digits.drop length) :=
        ih.2 ⟨rfl, by rw [List.length_drop]; omega⟩
      rw [hyphenate, dehyphenate?, List.drop_left' front, List.take_left' front]
      show (fun rest => digits.take length ++ rest) <$> dehyphenate? lengths _ = _
      rw [inner]
      exact congrArg some (List.take_append_drop length digits)

/-- Hyphens lengthen digits by one each. -/
theorem length_hyphenate {lengths : List Nat} (enough : lengths.sum ≤ digits.length) :
    (hyphenate lengths digits).length = digits.length + lengths.length := by
  induction lengths generalizing digits with
  | nil => rfl
  | cons length lengths ih =>
    rw [List.sum_cons] at enough
    have others := @ih (digits.drop length) (by rw [List.length_drop]; omega)
    rw [hyphenate, List.length_append, List.length_cons, others, List.length_take,
      List.length_drop, List.length_cons]
    omega

/-- An identity with hyphens is read from its digits in groups. -/
theorem ofHyphenated?_eq_some_iff {s : List Char} :
    ofHyphenated? s = some id ↔
      ∃ digits, digits.map Char.toLower = id.digits ∧ s = hyphenate groupLengths digits := by
  constructor
  · intro found
    obtain ⟨digits, hyphens, read⟩ := Option.bind_eq_some_iff.1 found
    exact ⟨digits, ofDigits?_eq_some_iff.1 read, (dehyphenate?_eq_some_iff.1 hyphens).1⟩
  · rintro ⟨digits, lower, rfl⟩
    have enough : groupLengths.sum ≤ digits.length := by
      rw [length_of_toLower lower]
      decide
    exact Option.bind_eq_some_iff.2
      ⟨digits, dehyphenate?_eq_some_iff.2 ⟨rfl, enough⟩, ofDigits?_eq_some_iff.2 lower⟩

/-- The layouts of an identity: its digits alone, with hyphens, in braces or behind a prefix. -/
inductive Layout : List Char → List Char → Prop where
  /-- The digits alone. -/
  | plain (digits : List Char) : Layout digits digits
  /-- With hyphens between the groups. -/
  | hyphenated (digits : List Char) : Layout digits (hyphenate groupLengths digits)
  /-- With hyphens, in braces. -/
  | braced (digits : List Char) :
    Layout digits ('\x7b' :: (hyphenate groupLengths digits ++ ['\x7d']))
  /-- With hyphens, as a resource name. -/
  | resource (digits : List Char) {front : List Char}
    (named : front.map Char.toLower = resourcePrefix) :
    Layout digits (front ++ hyphenate groupLengths digits)

/-- A text spells an identity: it is a layout of its digits, with letters in either case. -/
def Spelled (id : SpriteId) (text : String) : Prop :=
  ∃ digits, digits.map Char.toLower = id.digits ∧ Layout digits text.toList

/-- An identity is read from the texts that spell it. -/
theorem ofText?_eq_some_iff {text : String} : ofText? text = some id ↔ id.Spelled text := by
  unfold Spelled ofText?
  dsimp only
  generalize text.toList = s
  constructor
  · intro found
    split at found
    · exact ⟨s, ofDigits?_eq_some_iff.1 found, .plain s⟩
    · obtain ⟨digits, lower, rfl⟩ := ofHyphenated?_eq_some_iff.1 found
      exact ⟨digits, lower, .hyphenated digits⟩
    · split at found
      · rename_i size braces
        obtain ⟨opened, closed⟩ := braces
        obtain ⟨front, rfl⟩ := List.getLast?_eq_some_iff.1 closed
        cases front with
        | nil => cases size
        | cons c inside =>
          obtain rfl : c = '\x7b' := by simpa using opened
          obtain ⟨digits, lower, behind⟩ := ofHyphenated?_eq_some_iff.1 found
          have middle : (('\x7b' :: inside ++ ['\x7d']).drop 1).dropLast = inside :=
            List.dropLast_concat
          rw [middle] at behind
          rw [behind]
          exact ⟨digits, lower, .braced digits⟩
      · cases found
    · split at found
      · rename_i named
        obtain ⟨digits, lower, behind⟩ := ofHyphenated?_eq_some_iff.1 found
        have layout := Layout.resource digits named
        rw [← behind, List.take_append_drop] at layout
        exact ⟨digits, lower, layout⟩
      · cases found
    · cases found
  · rintro ⟨digits, lower, layout⟩
    have length := length_of_toLower lower
    have hyphens : (hyphenate groupLengths digits).length = 36 := by
      rw [length_hyphenate (by rw [length]; decide), length]
      rfl
    have read := ofHyphenated?_eq_some_iff.2 ⟨digits, lower, rfl⟩
    cases layout with
    | plain =>
      rw [length]
      exact ofDigits?_eq_some_iff.2 lower
    | hyphenated =>
      rw [hyphens]
      exact read
    | braced =>
      have size : ('\x7b' :: (hyphenate groupLengths digits ++ ['\x7d'])).length = 38 := by
        simp [hyphens]
      have closed : ('\x7b' :: (hyphenate groupLengths digits ++ ['\x7d'])).getLast? =
          some '\x7d' := List.getLast?_concat (l := '\x7b' :: hyphenate groupLengths digits)
      rw [size]
      rw [if_pos ⟨rfl, closed⟩, List.drop_one, List.tail_cons, List.dropLast_concat]
      exact read
    | @resource front named =>
      have prefixed : front.length = 9 := by
        have lengths := congrArg List.length named
        rwa [List.length_map] at lengths
      rw [List.length_append, hyphens, prefixed]
      rw [List.take_left' prefixed, List.drop_left' prefixed, if_pos named]
      exact read

/-- The digits of an identity are written in lower case. -/
theorem toLower_digits (id : SpriteId) : id.digits.map Char.toLower = id.digits := by
  have each : ∀ n < 16, (Nat.digitChar n).toLower = Nat.digitChar n := by decide
  rw [digits_eq, List.map_map]
  exact List.map_congr_left fun n member => each n (nibble_lt id n member)

/-- An identity is spelled by its own text. -/
theorem spelled_toText (id : SpriteId) : id.Spelled id.toText := by
  refine ⟨id.digits, toLower_digits id, ?_⟩
  rw [toText, String.toList_ofList]
  exact .hyphenated id.digits

end SpriteId

end Troupe

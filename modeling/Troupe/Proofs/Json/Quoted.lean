import Troupe.Json.Quoted

/-!
# How texts are spelled

A character between quotes is spelled in one of three ways: as itself, by a letter behind a
backslash, or by the hexadecimal digits of its 16-bit units. The scanner finds the end of exactly
the texts that are spelled so (`Quoted.scan_eq_closed_iff`), and a text that is written is spelled
so that its pieces stand for its characters.
-/

namespace Troupe.Json.Quoted

/-- The piece that a written character is read as. -/
def pieceOf (c : Char) : Piece :=
  if letter? c = none ∧ isControl c then .unit c.toNat else .char c

/-- A letter behind a backslash stands for the character it is written for. -/
theorem unletter_of_letter {c l : Char} (letter : letter? c = some l) : unletter? l = some c := by
  unfold letter? at letter
  split at letter <;> first
    | cases letter; decide
    | cases letter

/-- A character that stands for itself is no quote and no backslash. -/
theorem ne_of_letter_eq_none {c : Char} (letter : letter? c = none) : c ≠ '"' ∧ c ≠ '\\' := by
  constructor <;> rintro rfl <;> simp [letter?] at letter

/-- A hexadecimal digit is read back. -/
theorem hexDigit_digitChar {n : Nat} (digit : n < 16) :
    hexDigit? (Nat.digitChar n) = some n := by
  revert n
  decide

/-- The digits of a control character are read back. -/
theorem hexUnit_of_isControl {c : Char} (control : isControl c = true) :
    hexUnit? '0' '0' (Nat.digitChar (c.toNat / 16)) (Nat.digitChar (c.toNat % 16)) =
      some c.toNat := by
  have small : c.toNat < 32 := of_decide_eq_true control
  have zero : hexDigit? '0' = some 0 := by decide
  have high := hexDigit_digitChar (n := c.toNat / 16) (by omega)
  have low := hexDigit_digitChar (n := c.toNat % 16) (by omega)
  simp only [hexUnit?, zero, high, low, bind, Option.bind, pure, Option.some.injEq]
  omega

/-! ## Spelled texts -/

/-- The characters between the quotes of a text, and the pieces they are spelled for. -/
inductive Spells : List Char → List Piece → Prop where
  /-- The text without characters. -/
  | nil : Spells [] []
  /-- A character that stands for itself. -/
  | plain {c : Char} {s : List Char} {pieces : List Piece} (visible : isControl c = false)
    (quote : c ≠ '"') (backslash : c ≠ '\\') (rest : Spells s pieces) :
    Spells (c :: s) (.char c :: pieces)
  /-- A letter that stands for a character. -/
  | letter {l c : Char} {s : List Char} {pieces : List Piece} (letter : unletter? l = some c)
    (rest : Spells s pieces) : Spells ('\\' :: l :: s) (.char c :: pieces)
  /-- A unit by its digits. -/
  | unit {a b c d : Char} {code : Nat} {s : List Char} {pieces : List Piece}
    (digits : hexUnit? a b c d = some code) (rest : Spells s pieces) :
    Spells ('\\' :: 'u' :: a :: b :: c :: d :: s) (.unit code :: pieces)

/-- A spelled text is scanned up to its closing quote. -/
theorem Spells.scan_append {s : List Char} {pieces : List Piece} (spells : Spells s pieces)
    (rest : List Char) : scan (s ++ '"' :: rest) = (pieces, .closed rest) := by
  induction spells with
  | nil => rfl
  | plain visible quote backslash _ ih => simp [scan, visible, backslash, ih]
  | @letter l _ _ _ letter _ ih =>
    have other : l ≠ 'u' := by
      rintro rfl
      cases letter
    simp [scan, letter, other, ih]
  | unit digits _ ih => simp [scan, digits, ih]

/-- A text that is scanned up to its closing quote is spelled. -/
theorem exists_spells_of_scan {s rest : List Char} {pieces : List Piece}
    (closed : scan s = (pieces, .closed rest)) :
    ∃ found, s = found ++ '"' :: rest ∧ Spells found pieces := by
  fun_induction scan s generalizing pieces with
  | case1 | case3 | case5 | case6 | case8 | case9 => simp at closed
  | case2 after =>
    obtain ⟨rfl, rfl⟩ : [] = pieces ∧ after = rest := by simpa using closed
    exact ⟨[], rfl, .nil⟩
  | case4 a b c d after code digits others close scanned ih =>
    obtain ⟨rfl, rfl⟩ : .unit code :: others = pieces ∧ close = .closed rest := by
      simpa using closed
    obtain ⟨found, rfl, spells⟩ := ih scanned
    exact ⟨_, rfl, .unit digits spells⟩
  | case7 l after _ _ c letter others close scanned ih =>
    obtain ⟨rfl, rfl⟩ : .char c :: others = pieces ∧ close = .closed rest := by
      simpa using closed
    obtain ⟨found, rfl, spells⟩ := ih scanned
    exact ⟨_, rfl, .letter letter spells⟩
  | case10 c after quote cut _ _ backslash visible others close scanned ih =>
    have plain : c ≠ '\\' := by
      cases after with
      | nil => exact fun same => cut same rfl
      | cons l after => exact fun same => backslash l after same rfl
    obtain ⟨rfl, rfl⟩ : .char c :: others = pieces ∧ close = .closed rest := by
      simpa using closed
    obtain ⟨found, rfl, spells⟩ := ih scanned
    exact ⟨_, rfl, .plain (Bool.eq_false_iff.2 visible) quote plain spells⟩

/-- The scanner finds the end of the texts that are spelled, and of no others. -/
theorem scan_eq_closed_iff {s rest : List Char} {pieces : List Piece} :
    scan s = (pieces, .closed rest) ↔ ∃ found, s = found ++ '"' :: rest ∧ Spells found pieces := by
  refine ⟨exists_spells_of_scan, ?_⟩
  rintro ⟨found, rfl, spells⟩
  exact spells.scan_append rest

/-! ## Written texts -/

/-- A written text is spelled. -/
theorem spells_flatMap_encodeChar (s : List Char) :
    Spells (s.flatMap encodeChar) (s.map pieceOf) := by
  induction s with
  | nil => exact .nil
  | cons c s ih =>
    rw [List.flatMap_cons, List.map_cons, encodeChar, pieceOf]
    cases letter : letter? c with
    | some l => simpa using ih.letter (unletter_of_letter letter)
    | none =>
      obtain ⟨quote, backslash⟩ := ne_of_letter_eq_none letter
      cases control : isControl c with
      | true => simpa using ih.unit (hexUnit_of_isControl control)
      | false => simpa using ih.plain control quote backslash

/-- A unit that is no half of a pair stands for a character, whatever follows it. -/
theorem join_unit {code : Nat} (leading : isLeading code = false)
    (trailing : isTrailing code = false) (rest : List Piece) :
    join? (.unit code :: rest) = (Char.ofNat code :: ·) <$> join? rest := by
  match rest with
  | [] | .char _ :: _ | .unit _ :: _ => simp [join?, leading, trailing]

/-- The pieces of a written text stand for its characters. -/
theorem join_map_pieceOf (s : List Char) : join? (s.map pieceOf) = some s := by
  induction s with
  | nil => rfl
  | cons c s ih =>
    rw [List.map_cons, pieceOf]
    split
    · rename_i special
      have small : c.toNat < 32 := of_decide_eq_true special.2
      have leading : isLeading c.toNat = false := by
        simp only [isLeading, Bool.and_eq_false_iff, decide_eq_false_iff_not]
        omega
      have trailing : isTrailing c.toNat = false := by
        simp only [isTrailing, Bool.and_eq_false_iff, decide_eq_false_iff_not]
        omega
      simp [join_unit leading trailing, ih]
    · simp [join?, ih]

end Troupe.Json.Quoted

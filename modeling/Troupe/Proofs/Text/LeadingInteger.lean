import Troupe.Block.Literal

/-!
# Integers are read from texts exactly

A text is read as an integer among its bytes and in wide words, both of which have bounds that the
text does not know of. Neither shows: a byte of a sign or a digit is never part of another
character, so a text is only cut between characters, and a number that has left the wide words has
left the 64-bit words long before. The main statement, `Literal.reads_leading_integer`, says that
what is found is the integer that the text starts with, taken to the nearest 64-bit word.
-/

namespace Troupe

/-! ## Characters and their bytes -/

/-- A character of ASCII has its code as its only byte. -/
theorem utf8EncodeChar_of_ascii {c : Char} (ascii : c.toNat < 128) :
    String.utf8EncodeChar c = [UInt8.ofNat c.toNat] := by
  have low : c.val.toNat ≤ 127 := Nat.le_of_lt_succ ascii
  simp only [String.utf8EncodeChar, if_pos low]
  rfl

/-- The code of a character of ASCII fits into a byte. -/
theorem toNat_ofNat_of_ascii {c : Char} (ascii : c.toNat < 128) :
    (UInt8.ofNat c.toNat).toNat = c.toNat := by
  rw [UInt8.toNat_ofNat']
  omega

/-- The first byte of any other character is none of ASCII. -/
theorem exists_utf8EncodeChar_of_not_ascii {c : Char} (other : 128 ≤ c.toNat) :
    ∃ first rest, String.utf8EncodeChar c = first :: rest ∧ 128 ≤ first.toNat := by
  have high : ¬c.val.toNat ≤ 127 := by
    rw [Char.toNat] at other
    omega
  simp only [String.utf8EncodeChar, if_neg high]
  split
  · exact ⟨_, _, rfl, by simp only [UInt8.toNat_ofNat']; omega⟩
  · split
    · exact ⟨_, _, rfl, by simp only [UInt8.toNat_ofNat']; omega⟩
    · exact ⟨_, _, rfl, by simp only [UInt8.toNat_ofNat']; omega⟩

/-- The bytes of a text begin with those of its first character. -/
theorem bytes_cons (c : Char) (s : List Char) :
    bytes (c :: s) = String.utf8EncodeChar c ++ bytes s := rfl

/-- A text may be cut behind characters of ASCII, after as many bytes. -/
theorem cutAt_length_of_ascii {front : List Char} (ascii : ∀ c ∈ front, c.toNat < 128)
    (back : List Char) : cutAt front.length (front ++ back) = .ok (front, back) := by
  induction front with
  | nil => exact cutAt.eq_1 back
  | cons c front ih =>
    obtain ⟨own, others⟩ := List.forall_mem_cons.1 ascii
    have width : (String.utf8EncodeChar c).length = 1 := by rw [utf8EncodeChar_of_ascii own]; rfl
    have rest : front.length + 1 - 1 = front.length := rfl
    simp only [List.length_cons, List.cons_append, cutAt, width, Nat.le_add_left, if_true, rest,
      ih others, bind, Except.bind]

/-! ## The scan -/

/-- A text that starts with no sign is not split. -/
theorem splitSign_of_ne {c : Char} (minus : c ≠ '-') (plus : c ≠ '+') (rest : List Char) :
    splitSign (c :: rest) = (false, c :: rest) := by
  unfold splitSign
  split
  · exact absurd (List.cons.inj ‹_›).1 minus
  · exact absurd (List.cons.inj ‹_›).1 plus
  · rfl

namespace Scan

/-- A digit is a character of ASCII, between `0` and `9`. -/
theorem isDigit_iff {c : Char} : c.isDigit = true ↔ 48 ≤ c.toNat ∧ c.toNat ≤ 57 := by
  simp only [Char.isDigit, Bool.and_eq_true, decide_eq_true_eq, ge_iff_le, UInt32.le_iff_toNat_le]
  rfl

/-- A digit is a character of ASCII. -/
theorem ascii_of_isDigit {c : Char} (digit : c.isDigit = true) : c.toNat < 128 :=
  Nat.lt_of_le_of_lt (isDigit_iff.1 digit).2 (by decide)

/-- The byte of a character of ASCII is a digit when the character is. -/
theorem isDigit_ofNat {c : Char} (ascii : c.toNat < 128) :
    isDigit (UInt8.ofNat c.toNat) = c.isDigit := by
  rw [Bool.eq_iff_iff, isDigit_iff, isDigit, Bool.and_eq_true, decide_eq_true_eq, decide_eq_true_eq,
    UInt8.le_iff_toNat_le, UInt8.le_iff_toNat_le, toNat_ofNat_of_ascii ascii]
  rfl

/-- A text that starts with no sign starts with the byte of none. -/
theorem head_bytes_ne {c : Char} (minus : c ≠ '-') (plus : c ≠ '+') (rest : List Char) :
    ∃ byte, (bytes (c :: rest)).head? = some byte ∧ byte ≠ 45 ∧ byte ≠ 43 := by
  rw [bytes_cons]
  by_cases ascii : c.toNat < 128
  · have code := toNat_ofNat_of_ascii ascii
    refine ⟨UInt8.ofNat c.toNat, by rw [utf8EncodeChar_of_ascii ascii]; rfl, ?_, ?_⟩
    · intro same
      rw [same] at code
      exact minus (Char.toNat_inj.1 code.symm)
    · intro same
      rw [same] at code
      exact plus (Char.toNat_inj.1 code.symm)
  · obtain ⟨first, others, encoded, high⟩ :=
      exists_utf8EncodeChar_of_not_ascii (Nat.le_of_not_lt ascii)
    refine ⟨first, by rw [encoded]; rfl, ?_, ?_⟩
    · rintro rfl
      exact absurd high (by decide)
    · rintro rfl
      exact absurd high (by decide)

/-- The sign is cut off. -/
theorem sign_eq_ok (s : List Char) : sign s = .ok (splitSign s) := by
  cases s with
  | nil => rfl
  | cons c rest =>
    by_cases minus : c = '-'
    · subst minus
      have cut : cutAt 1 ('-' :: rest) = .ok (['-'], rest) :=
        cutAt_length_of_ascii (List.forall_mem_singleton.2 (by decide)) rest
      have first : (bytes ('-' :: rest)).head? = some 45 := rfl
      simp only [sign, first, cut, bind, Except.bind, splitSign]
    by_cases plus : c = '+'
    · subst plus
      have cut : cutAt 1 ('+' :: rest) = .ok (['+'], rest) :=
        cutAt_length_of_ascii (List.forall_mem_singleton.2 (by decide)) rest
      have first : (bytes ('+' :: rest)).head? = some 43 := rfl
      simp only [sign, first, cut, bind, Except.bind, splitSign]
    -- No other character starts with the byte of a sign.
    obtain ⟨byte, first, notMinus, notPlus⟩ := head_bytes_ne minus plus rest
    rw [sign, first, splitSign_of_ne minus plus]
    split
    · exact absurd (Option.some.inj ‹_›) notMinus
    · exact absurd (Option.some.inj ‹_›) notPlus
    · rfl

/-- There are as many bytes of digits at the start of a text as there are digits. -/
theorem length_takeWhile_bytes (s : List Char) :
    ((bytes s).takeWhile isDigit).length = (s.takeWhile Char.isDigit).length := by
  induction s with
  | nil => rfl
  | cons c rest ih =>
    rw [bytes_cons]
    by_cases ascii : c.toNat < 128
    · rw [utf8EncodeChar_of_ascii ascii, List.singleton_append, List.takeWhile_cons,
        List.takeWhile_cons, isDigit_ofNat ascii]
      cases c.isDigit with
      | false => rfl
      | true => simp only [if_true, List.length_cons, ih]
    · obtain ⟨first, others, encoded, high⟩ :=
        exists_utf8EncodeChar_of_not_ascii (Nat.le_of_not_lt ascii)
      have noByte : isDigit first = false := by
        rw [isDigit, Bool.and_eq_false_iff]
        refine .inr (decide_eq_false ?_)
        rw [UInt8.le_iff_toNat_le]
        exact Nat.not_le.2 (Nat.lt_of_lt_of_le (by decide) high)
      have noDigit : c.isDigit = false := by
        rw [Bool.eq_false_iff]
        exact fun digit => ascii (ascii_of_isDigit digit)
      rw [encoded, List.cons_append, List.takeWhile_cons, noByte, List.takeWhile_cons, noDigit]
      rfl

/-- The digits at the start of a text are cut off. -/
theorem digits_eq_ok (s : List Char) : digits s = .ok (s.takeWhile Char.isDigit) := by
  have ascii : ∀ c ∈ s.takeWhile Char.isDigit, c.toNat < 128 := by
    intro c member
    exact ascii_of_isDigit (List.all_eq_true.1 List.all_takeWhile c member)
  have cut := cutAt_length_of_ascii ascii (s.dropWhile Char.isDigit)
  rw [List.takeWhile_append_dropWhile] at cut
  rw [digits, length_takeWhile_bytes, cut]
  rfl

/-! ## The number -/

/-- The wide word nearest to a number with one more digit at its end is found from the one nearest
to the number. -/
theorem append_eq_ok (n : Nat) {c : Char} (digit : c.isDigit = true) :
    append (.ofIntClamp n) (UInt8.ofNat c.toNat) =
      .ok (.ofIntClamp ↑(10 * n + (c.toNat - '0'.toNat))) := by
  obtain ⟨low, high⟩ := isDigit_iff.1 digit
  have byte : (UInt8.ofNat c.toNat).toNat = c.toNat :=
    toNat_ofNat_of_ascii (ascii_of_isDigit digit)
  have enough : ¬UInt8.ofNat c.toNat < 48 := by
    rw [UInt8.lt_iff_toNat_lt, byte]
    exact Nat.not_lt.2 low
  have value : (UInt8.ofNat c.toNat - 48).toNat = c.toNat - 48 := by
    rw [UInt8.toNat_sub_of_le _ _ (UInt8.not_lt.1 enough), byte]
    rfl
  have ten : (10 : UInt8).toNat = 10 := rfl
  have zero : '0'.toNat = 48 := rfl
  rw [append, Scan.digit, if_neg enough]
  refine congrArg Except.ok (Wide.ext ?_)
  simp only [Wide.addClamp, Wide.mulClamp, Wide.toInt_ofIntClamp, Wide.toInt_ofUInt8, value, ten,
    zero, Wide.least, Wide.greatest]
  omega

/-- The number that is written in digits behind another one is found as far as wide words go. -/
theorem foldlM_append_eq_ok {written : List Char} (digits : ∀ c ∈ written, c.isDigit = true)
    (n : Nat) :
    (bytes written).foldlM append (.ofIntClamp n) =
      .ok (.ofIntClamp ↑(Nat.ofDigitChars 10 written n)) := by
  induction written generalizing n with
  | nil => rfl
  | cons c rest ih =>
    obtain ⟨digit, others⟩ := List.forall_mem_cons.1 digits
    rw [bytes_cons, utf8EncodeChar_of_ascii (ascii_of_isDigit digit), List.singleton_append,
      List.foldlM_cons, append_eq_ok n digit]
    exact ih others _

/-- The number that is written in digits is found as far as wide words go. -/
theorem size_eq_ok {written : List Char} (digits : ∀ c ∈ written, c.isDigit = true) :
    size (bytes written) = .ok (.ofIntClamp ↑(Nat.ofDigitChars 10 written 0)) :=
  foldlM_append_eq_ok digits 0

end Scan

/-- The 64-bit word nearest to an integer. -/
theorem toInt_ofIntClamp (n : Int) :
    (Int64.ofIntClamp n).toInt = max (-9223372036854775808) (min n 9223372036854775807) := by
  have least : Int64.minValue.toInt = -9223372036854775808 := by decide
  have greatest : Int64.maxValue.toInt = 9223372036854775807 := by decide
  unfold Int64.ofIntClamp
  split
  · split
    · rw [Int64.toInt_ofIntLE]
      omega
    · omega
  · omega

/-- The 64-bit word nearest to a number, with either sign, is found from the wide word nearest to
the number. -/
theorem exists_signed_eq_ok (negative : Bool) (n : Nat) :
    ∃ value, Scan.signed negative (.ofIntClamp n) = .ok value ∧
      Int64.ofIntClamp value.toInt = Int64.ofIntClamp (if negative then -n else n) := by
  cases negative with
  | false =>
    refine ⟨_, rfl, Int64.toInt_inj.1 ?_⟩
    simp only [toInt_ofIntClamp, Wide.toInt_ofIntClamp, Wide.least, Wide.greatest,
      Bool.false_eq_true, if_false]
    omega
  | true =>
    have low : Wide.least ≤ -(Wide.ofIntClamp n).toInt := by
      simp only [Wide.toInt_ofIntClamp, Wide.least, Wide.greatest]
      omega
    have high : -(Wide.ofIntClamp n).toInt ≤ Wide.greatest := by
      simp only [Wide.toInt_ofIntClamp, Wide.least, Wide.greatest]
      omega
    refine ⟨_, Wide.ofInt_eq_ok low high, Int64.toInt_inj.1 ?_⟩
    simp only [toInt_ofIntClamp, Wide.toInt_ofIntClamp, Wide.least, Wide.greatest, if_true]
    omega

/-- The scan finds the integer that a text starts with, taken to the nearest 64-bit word. -/
theorem scanInteger_eq_ok (s : String) :
    scanInteger s = .ok ((leadingInteger? s.toList).map .ofIntClamp) := by
  rw [scanInteger, Scan.sign_eq_ok, leadingInteger?]
  obtain ⟨negative, rest⟩ := splitSign (trimStart s.toList)
  simp only [bind, Except.bind, Scan.digits_eq_ok]
  have digits : ∀ c ∈ rest.takeWhile Char.isDigit, c.isDigit = true :=
    List.all_eq_true.1 List.all_takeWhile
  cases written : rest.takeWhile Char.isDigit with
  | nil => rfl
  | cons first others =>
    rw [written] at digits
    obtain ⟨value, signed, nearest⟩ :=
      exists_signed_eq_ok negative (Nat.ofDigitChars 10 (first :: others) 0)
    simp only [List.isEmpty_cons, Bool.false_eq_true, if_false, Scan.size_eq_ok digits, signed,
      nearest, Option.map_some]

/-! ## Integers that are written -/

/-- A digit is no blank. -/
theorem isBlank_of_isDigit {c : Char} (digit : c.isDigit = true) : isBlank c = false := by
  obtain ⟨low, high⟩ := Scan.isDigit_iff.1 digit
  simp only [isBlank, CharRanges.has, blanks, List.any_cons, List.any_nil, Bool.or_false,
    Bool.or_eq_false_iff, Bool.and_eq_false_iff, decide_eq_false_iff_not]
  omega

/-- The blanks in front of a character that is none are dropped. -/
theorem trimStart_append_cons {front : List Char} (blank : ∀ c ∈ front, isBlank c = true)
    {c : Char} (visible : isBlank c = false) (rest : List Char) :
    trimStart (front ++ c :: rest) = c :: rest := by
  rw [trimStart, List.dropWhile_append_of_pos blank, List.dropWhile_cons, visible]
  rfl

/-- Digits end where something else follows. -/
theorem takeWhile_isDigit_append {digits back : List Char}
    (isDigit : ∀ c ∈ digits, c.isDigit = true) (stops : ∀ c ∈ back.head?, c.isDigit = false) :
    (digits ++ back).takeWhile Char.isDigit = digits := by
  rw [List.takeWhile_append_of_pos isDigit]
  cases back with
  | nil => exact List.append_nil digits
  | cons c rest =>
    rw [List.takeWhile_cons, stops c rfl]
    exact List.append_nil digits

/-- Behind blanks, a text starts with the integer that is written there, whatever else than a digit
follows. -/
theorem leadingInteger?_ofInt {front back : List Char} (blank : ∀ c ∈ front, isBlank c = true)
    (stops : ∀ c ∈ back.head?, c.isDigit = false) (n : Int) :
    leadingInteger? (front ++ (Numeral.ofInt n).toChars ++ back) = some n := by
  have isDigit : ∀ c ∈ Nat.toDigits 10 n.natAbs, c.isDigit = true :=
    fun c member => Nat.isDigit_of_mem_toDigits (by decide) (by decide) member
  have size : Nat.ofDigitChars 10 (Nat.toDigits 10 n.natAbs) 0 = n.natAbs :=
    Nat.ofDigitChars_ten_toDigits
  have run := takeWhile_isDigit_append isDigit stops
  obtain ⟨first, others, digits⟩ :=
    List.exists_cons_of_ne_nil (Nat.toDigits_ne_nil (b := 10) (n := n.natAbs))
  rw [digits] at isDigit size run
  have firstIsDigit := isDigit first List.mem_cons_self
  by_cases negative : n < 0
  · have written : (Numeral.ofInt n).toChars = '-' :: first :: others := by
      simp [Numeral.toChars, Numeral.ofInt, negative, digits]
    rw [written, List.append_assoc, List.cons_append, leadingInteger?,
      trimStart_append_cons blank (by decide), splitSign]
    simp only [run, size, if_true, Option.some.injEq]
    omega
  · have written : (Numeral.ofInt n).toChars = first :: others := by
      simp [Numeral.toChars, Numeral.ofInt, negative, digits]
    have minus : first ≠ '-' := by
      rintro rfl
      exact absurd firstIsDigit (by decide)
    have plus : first ≠ '+' := by
      rintro rfl
      exact absurd firstIsDigit (by decide)
    rw [List.cons_append] at run
    rw [written, List.append_assoc, List.cons_append, leadingInteger?,
      trimStart_append_cons blank (isBlank_of_isDigit firstIsDigit), splitSign_of_ne minus plus]
    simp only [run, size, Bool.false_eq_true, if_false, Option.some.injEq]
    omega

namespace Literal

/-- A text is read as the integer that it starts with, taken to the nearest 64-bit word. -/
theorem toInteger?_text (s : String) :
    (text s).toInteger? = (leadingInteger? s.toList).map .ofIntClamp := by
  rw [toInteger?, scanInteger_eq_ok]
  rfl

/-- Behind blanks, a 64-bit word that is written is read, whatever else than a digit follows. -/
theorem toInteger?_display {front back : List Char} (blank : ∀ c ∈ front, isBlank c = true)
    (stops : ∀ c ∈ back.head?, c.isDigit = false) (n : Int64) :
    (text (String.ofList (front ++ (integer n).display.toList ++ back))).toInteger? = some n := by
  have least : Int64.minValue.toInt = -9223372036854775808 := by decide
  have greatest : Int64.maxValue.toInt = 9223372036854775807 := by decide
  have low := n.minValue_le_toInt
  have high := n.toInt_le
  have nearest : Int64.ofIntClamp n.toInt = n := by
    rw [← Int64.toInt_inj, toInt_ofIntClamp]
    omega
  rw [toInteger?_text, String.toList_ofList, display, Numeral.toText, String.toList_ofList,
    leadingInteger?_ofInt blank stops, Option.map_some, nearest]

/-- Every text is read without a fault, as the integer that it starts with, taken to the nearest
64-bit word. So behind any blanks and in front of anything but a digit, a 64-bit word is read as it
is written. -/
theorem reads_leading_integer :
    (∀ s : String, ∃ found, scanInteger s = .ok found ∧ (text s).toInteger? = found ∧
      found.map Int64.toInt = (leadingInteger? s.toList).map fun n =>
        max (-9223372036854775808) (min n 9223372036854775807)) ∧
    ∀ (n : Int64) (front back : List Char), (∀ c ∈ front, isBlank c = true) →
      (∀ c ∈ back.head?, c.isDigit = false) →
        (text (String.ofList (front ++ (integer n).display.toList ++ back))).toInteger? =
          some n := by
  refine ⟨fun s => ⟨_, scanInteger_eq_ok s, toInteger?_text s, ?_⟩, fun n front back blank stops =>
    toInteger?_display blank stops n⟩
  rw [Option.map_map]
  exact congrArg (Option.map · _) (funext toInt_ofIntClamp)

/-- The least 64-bit word is read behind an ideographic space and a next line, in front of a letter
of two bytes and a digit. -/
theorem reads_leading_integer_least :
    let front := ['\u3000', '\u0085']
    let back := ['é', '7']
    (∀ c ∈ front, isBlank c = true) ∧ (∀ c ∈ back.head?, c.isDigit = false) ∧
      (text "\u3000\u0085-9223372036854775808é7").toInteger? = some Int64.minValue := by
  intro front back
  have blank : ∀ c ∈ front, isBlank c = true :=
    List.forall_mem_cons.2 ⟨by decide, List.forall_mem_singleton.2 (by decide)⟩
  have stops : ∀ c ∈ back.head?, c.isDigit = false := by rintro c ⟨⟩; rfl
  have written : String.ofList (front ++ (integer Int64.minValue).display.toList ++ back) =
      "\u3000\u0085-9223372036854775808é7" := by decide
  have found := reads_leading_integer.2 Int64.minValue front back blank stops
  rw [written] at found
  exact ⟨blank, stops, found⟩

end Literal

end Troupe

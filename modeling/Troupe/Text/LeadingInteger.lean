import Troupe.Text.Blank
import Troupe.Wide

/-!
# The integer at the start of a text

A text is read leniently as an integer: blanks in front, one sign, and the digits that follow it.
Whatever comes after them does not matter. Without a digit there is no integer.

`leadingInteger?` says which integer that is, of any size. `scanInteger` finds it among the bytes of
the text with arithmetic on words: the digits are added up in a wide word that stops at its bounds,
the sign is applied to it, and the result is the nearest 64-bit word. A text is stored in UTF-8;
where places in it are counted in bytes, it can only be cut between two characters.
-/

namespace Troupe

/-- A text split into its sign and what follows. Without a sign the number is not negative. -/
def splitSign : List Char → Bool × List Char
  | '-' :: rest => (true, rest)
  | '+' :: rest => (false, rest)
  | rest => (false, rest)

/-- The integer that a text starts with, of any size. -/
def leadingInteger? (s : List Char) : Option Int :=
  let (negative, rest) := splitSign (trimStart s)
  match rest.takeWhile Char.isDigit with
  | [] => none
  | digits =>
    let size : Int := Nat.ofDigitChars 10 digits 0
    some (if negative then -size else size)

example : leadingInteger? "  -7x".toList = some (-7) := by decide

example : leadingInteger? "+ 7".toList = none := by decide

/-- The bytes of a text in UTF-8. -/
def bytes (s : List Char) : List UInt8 := s.flatMap String.utf8EncodeChar

/-- Cuts a text in front of the byte with a given index, which has to be the first one of a
character or the end of the text. -/
def cutAt : Nat → List Char → Except Fault (List Char × List Char)
  | 0, s => .ok ([], s)
  | _ + 1, [] => .error .cut
  | index + 1, c :: rest =>
    let width := (String.utf8EncodeChar c).length
    if width ≤ index + 1 then do
      let (front, back) ← cutAt (index + 1 - width) rest
      .ok (c :: front, back)
    else .error .cut

namespace Scan

/-- Whether a byte is a digit. -/
def isDigit (byte : UInt8) : Bool := 48 ≤ byte && byte ≤ 57

/-- Cuts off the sign of a text by its first byte. -/
def sign (s : List Char) : Except Fault (Bool × List Char) :=
  match (bytes s).head? with
  | some 45 => do
    let (_, rest) ← cutAt 1 s
    .ok (true, rest)
  | some 43 => do
    let (_, rest) ← cutAt 1 s
    .ok (false, rest)
  | _ => .ok (false, s)

/-- The digits at the start of a text, cut off behind as many bytes as are digits. -/
def digits (s : List Char) : Except Fault (List Char) := do
  let (found, _) ← cutAt ((bytes s).takeWhile isDigit).length s
  .ok found

/-- The value of a digit. -/
def digit (byte : UInt8) : Except Fault UInt8 :=
  if byte < 48 then .error .overflow else .ok (byte - 48)

/-- A number with one more digit at its end, as far as wide words go. -/
def append (size : Wide) (byte : UInt8) : Except Fault Wide := do
  let value ← digit byte
  .ok ((size.mulClamp (.ofUInt8 10)).addClamp (.ofUInt8 value))

/-- The number that is written in digits, as far as wide words go. -/
def size (written : List UInt8) : Except Fault Wide := written.foldlM append (.ofUInt8 0)

/-- A number with its sign. -/
def signed (negative : Bool) (size : Wide) : Except Fault Wide :=
  if negative then size.neg else .ok size

end Scan

/-- The integer that a text starts with, found among its bytes and taken to the nearest 64-bit
word. -/
def scanInteger (s : String) : Except Fault (Option Int64) := do
  let (negative, rest) ← Scan.sign (trimStart s.toList)
  let digits ← Scan.digits rest
  if digits.isEmpty then .ok none
  else do
    let size ← Scan.size (bytes digits)
    let value ← Scan.signed negative size
    .ok (some (.ofIntClamp value.toInt))

end Troupe

import Troupe.Json.Quoted

/-!
# Identities of sprites

A sprite keeps its identity for life. It is a universally unique identifier, a number of 128 bits,
written in hexadecimal digits in groups of eight, four, four, four and twelve. It may also be read
without the hyphens between the groups, and with braces around the groups or a resource prefix in
front of them. Letters count alike in both cases.
-/

namespace Troupe

/-- The identity of a sprite. -/
structure SpriteId where
  /-- The number that is the identity. -/
  value : BitVec 128
deriving DecidableEq, Repr, Inhabited

namespace SpriteId

/-- The identity that is a given number. -/
def ofNat (n : Nat) : SpriteId := ⟨BitVec.ofNat 128 n⟩

/-- The thirty-two hexadecimal digits of an identity. -/
def digits (id : SpriteId) : List Char :=
  (List.range 32).map fun i => Nat.digitChar (id.value.toNat / Nat.pow 16 (31 - i) % 16)

/-- The lengths of the groups of digits but the last. -/
def groupLengths : List Nat := [8, 4, 4, 4]

/-- Digits with hyphens between groups of the given lengths and the remaining ones. -/
def hyphenate : List Nat → List Char → List Char
  | [], digits => digits
  | length :: lengths, digits => digits.take length ++ '-' :: hyphenate lengths (digits.drop length)

/-- Digits without the hyphens between groups of the given lengths, if the hyphens are there. -/
def dehyphenate? : List Nat → List Char → Option (List Char)
  | [], s => some s
  | length :: lengths, s =>
    match s.drop length with
    | '-' :: rest => (s.take length ++ ·) <$> dehyphenate? lengths rest
    | _ => none

/-- The text of an identity. -/
def toText (id : SpriteId) : String := String.ofList (hyphenate groupLengths id.digits)

/-- The identity with the given thirty-two hexadecimal digits. -/
def ofDigits? (digits : List Char) : Option SpriteId := do
  let values ← digits.mapM Json.Quoted.hexDigit?
  if digits.length = 32 then some (ofNat (values.foldl (16 * · + ·) 0)) else none

/-- The identity with the given hyphenated digits. -/
def ofHyphenated? (s : List Char) : Option SpriteId := do
  ofDigits? (← dehyphenate? groupLengths s)

/-- What may stand in front of hyphenated digits to mark them as a resource name. -/
def resourcePrefix : List Char := "urn:uuid:".toList

/-- The identity that a text is read as. -/
def ofText? (s : String) : Option SpriteId :=
  let s := s.toList
  match s.length with
  | 32 => ofDigits? s
  | 36 => ofHyphenated? s
  | 38 =>
    if s.head? = some '\x7b' ∧ s.getLast? = some '\x7d' then ofHyphenated? (s.drop 1).dropLast
    else none
  | 45 =>
    if (s.take 9).map Char.toLower = resourcePrefix then ofHyphenated? (s.drop 9) else none
  | _ => none

end SpriteId

end Troupe

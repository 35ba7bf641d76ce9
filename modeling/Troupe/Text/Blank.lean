/-!
# Sets of characters, and blanks

A set of characters is a list of closed ranges of code points. The set needed everywhere is that of
the blanks: the twenty-five characters with the Unicode property White_Space.
-/

namespace Troupe

/-- A set of characters, as closed ranges of code points in ascending order. -/
abbrev CharRanges := List (Nat × Nat)

namespace CharRanges

/-- Whether a character lies in one of the ranges. -/
def has (ranges : CharRanges) (c : Char) : Bool :=
  ranges.any fun range => range.1 ≤ c.toNat && c.toNat ≤ range.2

end CharRanges

/-- The characters with the property White_Space. -/
def blanks : CharRanges :=
  [(0x09, 0x0D), (0x20, 0x20), (0x85, 0x85), (0xA0, 0xA0), (0x1680, 0x1680), (0x2000, 0x200A),
   (0x2028, 0x2029), (0x202F, 0x202F), (0x205F, 0x205F), (0x3000, 0x3000)]

/-- Whether a character is a blank. -/
def isBlank (c : Char) : Bool := blanks.has c

/-- A text without the blanks at its start. -/
def trimStart (s : List Char) : List Char := s.dropWhile isBlank

/-- A text without the blanks at its start and at its end. -/
def trim (s : List Char) : List Char := (trimStart (trimStart s).reverse).reverse

end Troupe

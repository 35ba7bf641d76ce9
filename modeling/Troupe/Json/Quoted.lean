import Troupe.Json.Refusal
import Troupe.Tally

/-!
# Texts in documents

A text stands between double quotes. Written, only the quote, the backslash and the control
characters below the space are escaped. Read, a character may also be given by the hexadecimal
digits of its 16-bit units; a unit that is half of a pair must be followed by its other half.

Reading has two layers, because a text that is only passed over needs no more than the first:
`scan` finds where the text ends, and `join?` turns its pieces into characters.
-/

namespace Troupe.Json.Quoted

/-- The letter that stands behind a backslash for a character, if the character has one. -/
def letter? (c : Char) : Option Char :=
  match c with
  | '"' => some '"'
  | '\\' => some '\\'
  | '\x08' => some 'b'
  | '\t' => some 't'
  | '\n' => some 'n'
  | '\x0c' => some 'f'
  | '\r' => some 'r'
  | _ => none

/-- The character that a letter behind a backslash stands for. -/
def unletter? (c : Char) : Option Char :=
  match c with
  | '"' => some '"'
  | '\\' => some '\\'
  | '/' => some '/'
  | 'b' => some '\x08'
  | 'f' => some '\x0c'
  | 'n' => some '\n'
  | 'r' => some '\r'
  | 't' => some '\t'
  | _ => none

/-- A control character, which cannot stand for itself. -/
def isControl (c : Char) : Bool := c.toNat < 0x20

/-- A character as it is written inside quotes. -/
def encodeChar (c : Char) : List Char :=
  match letter? c with
  | some l => ['\\', l]
  | none =>
    if isControl c then
      ['\\', 'u', '0', '0', Nat.digitChar (c.toNat / 16), Nat.digitChar (c.toNat % 16)]
    else [c]

/-- A text as it is written, quotes included. -/
def encode (s : String) : List Char := '"' :: s.toList.flatMap encodeChar ++ ['"']

/-- A piece of a written text. -/
inductive Piece where
  /-- A character. -/
  | char (c : Char)
  /-- A 16-bit unit given by its digits. -/
  | unit (code : Nat)
deriving DecidableEq, Repr

/-- Where a written text ends. -/
inductive Close where
  /-- Its closing quote was found, and the text after it is this. -/
  | closed (rest : List Char)
  /-- It has a flaw before any closing quote. -/
  | flawed (flaw : Flaw)
deriving DecidableEq, Repr

/-- The value of a hexadecimal digit. -/
def hexDigit? (c : Char) : Option Nat :=
  if '0' ≤ c ∧ c ≤ '9' then some (c.toNat - '0'.toNat)
  else if 'a' ≤ c ∧ c ≤ 'f' then some (c.toNat - 'a'.toNat + 10)
  else if 'A' ≤ c ∧ c ≤ 'F' then some (c.toNat - 'A'.toNat + 10)
  else none

/-- The value of four hexadecimal digits. -/
def hexUnit? (a b c d : Char) : Option Nat := do
  return (((← hexDigit? a) * 16 + (← hexDigit? b)) * 16 + (← hexDigit? c)) * 16 + (← hexDigit? d)

/-- The flaw of an escape that lacks its four digits: the text ends too soon when fewer than four
bytes are left of it. -/
def unitFlaw (rest : List Char) : Flaw :=
  if tally Char.utf8Size rest < 4 then .unfinished else .malformed

/-- The pieces of a text behind its opening quote, and where it ends. -/
def scan : List Char → List Piece × Close
  | [] => ([], .flawed .unfinished)
  | '"' :: rest => ([], .closed rest)
  | ['\\'] => ([], .flawed .unfinished)
  | '\\' :: 'u' :: a :: b :: c :: d :: rest =>
    match hexUnit? a b c d with
    | some code =>
      let (pieces, close) := scan rest
      (.unit code :: pieces, close)
    | none => ([], .flawed .malformed)
  | '\\' :: 'u' :: rest => ([], .flawed (unitFlaw rest))
  | '\\' :: l :: rest =>
    match unletter? l with
    | some c =>
      let (pieces, close) := scan rest
      (.char c :: pieces, close)
    | none => ([], .flawed .malformed)
  | c :: rest =>
    if isControl c then ([], .flawed .malformed)
    else
      let (pieces, close) := scan rest
      (.char c :: pieces, close)

/-- Whether a unit is the first half of a pair. -/
def isLeading (code : Nat) : Bool := 0xD800 ≤ code && code < 0xDC00

/-- Whether a unit is the second half of a pair. -/
def isTrailing (code : Nat) : Bool := 0xDC00 ≤ code && code < 0xE000

/-- The character that a pair of units stands for. -/
def pairChar (leading trailing : Nat) : Char :=
  Char.ofNat (0x10000 + (leading - 0xD800) * 0x400 + (trailing - 0xDC00))

/-- The characters of a text, unless it holds half of a pair on its own. -/
def join? : List Piece → Option (List Char)
  | [] => some []
  | .char c :: rest => (c :: ·) <$> join? rest
  | .unit leading :: .unit trailing :: rest =>
    if isLeading leading then
      if isTrailing trailing then (pairChar leading trailing :: ·) <$> join? rest else none
    else if isTrailing leading then none
    else (Char.ofNat leading :: ·) <$> join? (.unit trailing :: rest)
  | .unit code :: rest =>
    if isLeading code || isTrailing code then none else (Char.ofNat code :: ·) <$> join? rest

/-- Whether the start of a text already holds half of a pair on its own. A first half at its end
may still be completed. -/
def hasLoneHalf : List Piece → Bool
  | [] => false
  | .char _ :: rest => hasLoneHalf rest
  | .unit leading :: .unit trailing :: rest =>
    if isLeading leading then !isTrailing trailing || hasLoneHalf rest
    else isTrailing leading || hasLoneHalf (.unit trailing :: rest)
  | [.unit code] => isTrailing code
  | .unit code :: .char c :: rest =>
    isLeading code || isTrailing code || hasLoneHalf (.char c :: rest)

end Troupe.Json.Quoted

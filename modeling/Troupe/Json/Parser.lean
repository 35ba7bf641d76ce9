import Troupe.Json.Tree
import Troupe.Text.LeadingInteger

/-!
# From a text to a tree

The parser follows a text from left to right and stops at its first flaw. Each of its functions
returns what it found and the text behind it, or no text when it could not be followed any further.

Each call of `value` gives at least one character to the values inside it and each call of `items`
or `fields` is followed by a call of `value`, so twice the length of the text bounds the depth of
the calls; `parse` starts them with that bound.
-/

namespace Troupe.Json

/-- The blanks between the tokens of a document. -/
def isGap (c : Char) : Bool := c = ' ' || c = '\n' || c = '\t' || c = '\r'

/-- A text without the blanks at its start. -/
def dropGap (s : List Char) : List Char := s.dropWhile isGap

/-- What was found at the start of a text, and the text behind it unless it is flawed. -/
structure Parsed (α : Type) where
  /-- What was found. -/
  found : α
  /-- The text behind it. -/
  rest : Option (List Char)

namespace Parsed

/-- A value with a flaw that is the same whether it is read or passed over. -/
def flawed (flaw : Flaw) : Parsed Tree := ⟨.broken false flaw flaw, none⟩

/-- A value that is written as a fixed word, the rest of which is due. -/
def word (value : Tree) : List Char → List Char → Parsed Tree
  | [], rest => ⟨value, some rest⟩
  | _ :: _, [] => flawed .unfinished
  | c :: word, d :: rest => if c = d then Parsed.word value word rest else flawed .malformed

/-- A text behind its opening quote. -/
def text (s : List Char) : Parsed Tree :=
  match Quoted.scan s with
  | (pieces, .closed rest) => ⟨.text ((Quoted.join? pieces).map String.ofList), some rest⟩
  | (pieces, .flawed flaw) =>
    ⟨.broken true (if Quoted.hasLoneHalf pieces then .malformed else flaw) flaw, none⟩

/-- The digits at the start of a text and the text behind them; without a digit, the flaw. -/
def digits (s : List Char) : Except Flaw (List Char × List Char) :=
  match s.takeWhile Char.isDigit, s with
  | [], [] => .error .unfinished
  | [], _ :: _ => .error .malformed
  | found, _ => .ok (found, s.dropWhile Char.isDigit)

/-- The digits before the point of a number. A zero is not followed by another digit. -/
def wholeDigits (s : List Char) : Except Flaw (List Char × List Char) := do
  let (found, rest) ← digits s
  match found with
  | '0' :: _ :: _ => .error .malformed
  | _ => .ok (found, rest)

/-- The digits after the point of a number, if there is a point. -/
def fractionDigits : List Char → Except Flaw (List Char × List Char)
  | '.' :: rest => digits rest
  | rest => .ok ([], rest)

/-- The exponent of a number, if there is one. -/
def exponentPart : List Char → Except Flaw (Option Int × List Char)
  | mark :: rest =>
    if mark = 'e' ∨ mark = 'E' then do
      let (negative, rest) := splitSign rest
      let (found, rest) ← digits rest
      let size : Int := Nat.ofDigitChars 10 found 0
      .ok (some (if negative then -size else size), rest)
    else .ok (none, mark :: rest)
  | [] => .ok (none, [])

/-- A number behind its sign. -/
def numeral (negative : Bool) (s : List Char) : Except Flaw (Numeral × List Char) := do
  let (whole, rest) ← wholeDigits s
  let (fraction, rest) ← fractionDigits rest
  let (exponent, rest) ← exponentPart rest
  .ok ({ negative, whole, fraction, exponent }, rest)

/-- A number behind its sign, as a value. Passed over, a number that is not complete is malformed
even where the text ends. -/
def number (negative : Bool) (s : List Char) : Parsed Tree :=
  match numeral negative s with
  | .ok (n, rest) => ⟨.number n, some rest⟩
  | .error flaw => ⟨.broken false flaw .malformed, none⟩

mutual

/-- The value at the start of a text. -/
def value : Nat → List Char → Parsed Tree
  | 0, _ => flawed .malformed
  | bound + 1, s =>
    match dropGap s with
    | [] => ⟨.absent, none⟩
    | 'n' :: rest => word .null "ull".toList rest
    | 't' :: rest => word (.bool true) "rue".toList rest
    | 'f' :: rest => word (.bool false) "alse".toList rest
    | '"' :: rest => text rest
    | '-' :: rest => number true rest
    | '[' :: rest =>
      match dropGap rest with
      | ']' :: rest => ⟨.array [] none, some rest⟩
      | [] => ⟨.array [] (some .unfinished), none⟩
      | rest =>
        let ⟨(found, ending), rest⟩ := items bound rest
        ⟨.array found ending, rest⟩
    | '{' :: rest =>
      match dropGap rest with
      | '}' :: rest => ⟨.object [] none, some rest⟩
      | [] => ⟨.object [] (some .unfinished), none⟩
      | rest =>
        let ⟨(found, ending), rest⟩ := fields bound rest
        ⟨.object found ending, rest⟩
    | c :: rest => if c.isDigit then number false (c :: rest) else flawed .malformed

/-- The items of an array from one of them on, and its ending. -/
def items : Nat → List Char → Parsed (List Tree × Option Flaw)
  | 0, _ => ⟨([], some .malformed), none⟩
  | bound + 1, s =>
    match value bound s with
    | ⟨item, none⟩ => ⟨([item], some .malformed), none⟩
    | ⟨item, some rest⟩ =>
      match dropGap rest with
      | ',' :: rest =>
        let ⟨(found, ending), rest⟩ := items bound rest
        ⟨(item :: found, ending), rest⟩
      | ']' :: rest => ⟨([item], none), some rest⟩
      | [] => ⟨([item], some .unfinished), none⟩
      | _ :: _ => ⟨([item], some .malformed), none⟩

/-- The fields of an object from one of them on, and its ending. -/
def fields : Nat → List Char → Parsed (List (Tree × Tree) × Option Flaw)
  | 0, _ => ⟨([], some .malformed), none⟩
  | bound + 1, s =>
    match value bound s with
    | ⟨.text key, some rest⟩ =>
      match dropGap rest with
      | ':' :: rest =>
        match value bound rest with
        | ⟨item, none⟩ => ⟨([(.text key, item)], some .malformed), none⟩
        | ⟨item, some rest⟩ =>
          match dropGap rest with
          | ',' :: rest =>
            let ⟨(found, ending), rest⟩ := fields bound rest
            ⟨((.text key, item) :: found, ending), rest⟩
          | '}' :: rest => ⟨([(.text key, item)], none), some rest⟩
          | [] => ⟨([(.text key, item)], some .unfinished), none⟩
          | _ :: _ => ⟨([(.text key, item)], some .malformed), none⟩
      | [] => ⟨([(.text key, .absent)], some .malformed), none⟩
      | _ :: _ => ⟨([(.text key, (flawed .malformed).found)], some .malformed), none⟩
    | ⟨key, _⟩ => ⟨([(key, .absent)], some .malformed), none⟩

end

end Parsed

/-- A text taken apart: the tree at its start and whether more than blanks follow it. -/
structure Document where
  /-- The tree. -/
  tree : Tree
  /-- Whether the text goes on behind the value. -/
  hasMore : Bool

/-- Takes a text apart. -/
def parse (s : List Char) : Document :=
  let ⟨tree, rest⟩ := Parsed.value (2 * s.length + 1) s
  { tree, hasMore := match rest with
      | some rest => !(dropGap rest).isEmpty
      | none => true }

end Troupe.Json

import Troupe.Json.Quoted

/-!
# Documents

A text is taken apart into a `Tree` before anything is read from it. The tree of a text that is no
document holds what was found up to its first flaw, with the flaw at its place; so what is wrong
with the shape of a document and what is wrong with its text meet in one order, from left to right.

A tree without flaws is written by `Tree.toChars`, without blanks and with its fields in order.
-/

namespace Troupe.Json

/-- A document, or what was found of one up to its first flaw. -/
inductive Tree where
  /-- The value `null`. -/
  | null
  /-- A truth value. -/
  | bool (b : Bool)
  /-- A number. -/
  | number (n : Numeral)
  /-- A text, unless half of a character stands in it on its own. -/
  | text (s : Option String)
  /-- An array, and the flaw that stands in place of its closing bracket. -/
  | array (items : List Tree) (ending : Option Flaw)
  /-- An object as pairs of a key and a value, and the flaw that stands in place of its closing
  brace. -/
  | object (fields : List (Tree × Tree)) (ending : Option Flaw)
  /-- Nothing: the text ended where a value was due. -/
  | absent
  /-- A value with a flaw in it that begins like a text or not. The flaw may depend on whether the
  value is read or only passed over. -/
  | broken (quoted : Bool) (asRead asPassed : Flaw)

namespace Tree

/-- A text without flaws. -/
def ofString (s : String) : Tree := .text (some s)

/-- An integer. -/
def ofInt (n : Int) : Tree := .number (.ofInt n)

/-- A binary64 number; what is not finite is written as `null`. -/
def ofBinary64 (x : Binary64) : Tree :=
  if x.isFinite then .number (documentStyle.numeral x) else .null

/-- An array without flaws. -/
def ofList (items : List Tree) : Tree := .array items none

/-- An object without flaws. -/
def ofFields (fields : List (String × Tree)) : Tree :=
  .object (fields.map fun (name, value) => (.ofString name, value)) none

mutual

/-- The characters of a document. A flaw has none. -/
def toChars : Tree → List Char
  | .null => "null".toList
  | .bool true => "true".toList
  | .bool false => "false".toList
  | .number n => n.toChars
  | .text s => Quoted.encode (s.getD "")
  | .array items _ => '[' :: itemChars items ++ [']']
  | .object fields _ => '{' :: fieldChars fields ++ ['}']
  | .absent => []
  | .broken _ _ _ => []

/-- The characters of the items of an array, with commas between them. -/
def itemChars : List Tree → List Char
  | [] => []
  | [item] => toChars item
  | item :: next :: rest => toChars item ++ ',' :: itemChars (next :: rest)

/-- The characters of the fields of an object, with commas between them. -/
def fieldChars : List (Tree × Tree) → List Char
  | [] => []
  | [(key, value)] => toChars key ++ ':' :: toChars value
  | (key, value) :: next :: rest =>
    toChars key ++ ':' :: toChars value ++ ',' :: fieldChars (next :: rest)

end

/-- The text of a document. -/
def toText (t : Tree) : String := String.ofList t.toChars

end Tree

end Troupe.Json

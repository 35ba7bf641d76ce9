import Troupe.Json.Number
import Troupe.Text.Shown

/-!
# Why a document is refused

A text is refused because it is not a document at all (`Flaw`) or because the document does not have
the shape that is read (`Mismatch`). The wording of a mismatch is given by `Mismatch.message` alone.
-/

namespace Troupe.Json

/-- What keeps a text from being a document. -/
inductive Flaw where
  /-- The text ends inside a value. -/
  | unfinished
  /-- The text goes on in a way that no document does. -/
  | malformed
deriving DecidableEq, Repr

/-- A value in a document, as far as a message tells about it. -/
inductive Found where
  /-- The value `null`. -/
  | null
  /-- A truth value. -/
  | bool (b : Bool)
  /-- A number. -/
  | number (n : Number)
  /-- A text. -/
  | text (s : String)
  /-- An array. -/
  | sequence
  /-- An object. -/
  | map
deriving DecidableEq, Repr

/-- What is read at a place of a document. -/
inductive Expected where
  /-- A text. -/
  | text
  /-- A truth value. -/
  | bool
  /-- An array. -/
  | sequence
  /-- An unsigned 64-bit integer. -/
  | unsigned
  /-- A signed 64-bit integer. -/
  | signed
  /-- A binary64 number. -/
  | real
  /-- A universally unique identifier. -/
  | identifier
  /-- The value `null`. -/
  | unit
  /-- A record with the given name. -/
  | record (name : String)
deriving DecidableEq, Repr

/-- How a document differs from what is read. -/
inductive Mismatch where
  /-- A value of another kind stands there. -/
  | wrongType (found : Found) (expected : Expected)
  /-- An integer does not fit. -/
  | wrongRange (n : Int) (expected : Expected)
  /-- A field of a record is not there. -/
  | missingField (field : String)
  /-- A field of a record occurs twice. -/
  | duplicateField (field : String)
  /-- A record written as an array ends before the field with the given index. -/
  | tooShort (index : Nat) (record : String) (size : Nat)
  /-- A text names none of the alternatives. -/
  | unknownAlternative (name : String) (known : List String)
  /-- A value is none of those a block can carry. -/
  | noLiteral
  /-- A text is no universally unique identifier. -/
  | badIdentifier
deriving DecidableEq, Repr

/-- Why a document is refused. -/
inductive Refusal where
  /-- The text is not a document. -/
  | flawed (flaw : Flaw)
  /-- The document has another shape. -/
  | mismatched (mismatch : Mismatch)
deriving DecidableEq, Repr

/-- The wording for a value that was found. -/
def Found.phrase : Found → String
  | .null => "null"
  | .bool b => s!"boolean `{b}`"
  | .number (.integer n) => s!"integer `{n}`"
  | .number (.real x) => "floating point `" ++ (documentStyle.numeral x).toText ++ "`"
  | .text s => "string " ++ showText s
  | .sequence => "sequence"
  | .map => "map"

/-- The wording for what was expected. -/
def Expected.phrase : Expected → String
  | .text => "a string"
  | .bool => "a boolean"
  | .sequence => "a sequence"
  | .unsigned => "u64"
  | .signed => "i64"
  | .real => "f64"
  | .identifier => "a formatted UUID string"
  | .unit => "unit"
  | .record name => "struct " ++ name

/-- A name between backquotes. -/
def quoteName (name : String) : String := "`" ++ name ++ "`"

/-- The wording for a choice of names. -/
def choicePhrase : List String → String
  | [] => "there are no variants"
  | [only] => "expected " ++ quoteName only
  | [first, second] => "expected " ++ quoteName first ++ " or " ++ quoteName second
  | names => "expected one of " ++ ", ".intercalate (names.map quoteName)

/-- The wording of a mismatch. -/
def Mismatch.message : Mismatch → String
  | .wrongType found expected => s!"invalid type: {found.phrase}, expected {expected.phrase}"
  | .wrongRange n expected => s!"invalid value: integer `{n}`, expected {expected.phrase}"
  | .missingField field => "missing field " ++ quoteName field
  | .duplicateField field => "duplicate field " ++ quoteName field
  | .tooShort index record size =>
    s!"invalid length {index}, expected struct {record} with {size} elements"
  | .unknownAlternative name known => s!"unknown variant {quoteName name}, {choicePhrase known}"
  | .noLiteral => "data did not match any variant of untagged enum ParameterValue"
  | .badIdentifier => "UUID parsing failed"

end Troupe.Json

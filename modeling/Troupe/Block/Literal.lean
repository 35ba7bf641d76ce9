import Troupe.Decimal.Numeral
import Troupe.Text.LeadingInteger

/-!
# Literal values

A block carries literal values, typed in by its user: integers, other numbers and texts. Each is
read leniently as an integer or as a text, with a default where that is not possible, so no value
is ever an error.
-/

namespace Troupe

/-- A literal value. -/
inductive Literal where
  /-- An integer. -/
  | integer (n : Int64)
  /-- Another number. -/
  | real (x : Binary64)
  /-- A text. -/
  | text (s : String)
deriving DecidableEq, Repr, Inhabited

namespace Literal

/-- A literal as an integer. A number loses what stands behind its point, a text gives the integer
that it starts with, and what is too large or too small is taken as near as possible. -/
def toInteger? : Literal → Option Int64
  | .integer n => some n
  | .real x => if x.isFinite then some (.ofIntClamp x.trunc) else none
  | .text s => (scanInteger s).toOption.join

/-- A literal as an integer, or the default where it is none. -/
def toIntegerD (l : Literal) (default : Int64) : Int64 := l.toInteger?.getD default

/-- A literal as a text. -/
def display : Literal → String
  | .integer n => (Numeral.ofInt n.toInt).toText
  | .real x => x.display
  | .text s => s

/-- Whether a literal is the text without characters. -/
def isEmptyText : Literal → Bool
  | .text s => s.isEmpty
  | _ => false

/-- The integer at an index of a list of literals, or the default. -/
def integerAt (literals : List Literal) (index : Nat) (default : Int64) : Int64 :=
  match literals[index]? with
  | some l => l.toIntegerD default
  | none => default

/-- The text at an index of a list of literals, or the default where there is none or it has no
characters. -/
def textAt (literals : List Literal) (index : Nat) (default : String) : String :=
  match literals[index]? with
  | some l => if l.isEmptyText then default else l.display
  | none => default

end Literal

end Troupe

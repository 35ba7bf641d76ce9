import Troupe.Json.Parser

/-!
# Reading values from documents

A `Reader` takes a tree to a value or says why it refuses it. Readers go through a tree from left to
right, so of several reasons the first one in the text is given.

A reader is told how many more arrays and objects may be opened around what it reads: the `room`.
A document has room for 127; opening one more is a flaw of the text. Only values that are read
count; values that are passed over may be nested to any depth.
-/

namespace Troupe.Json

/-- Reads a value from a tree when so many more arrays and objects may be opened. -/
abbrev Reader (α : Type) := (room : Nat) → Tree → Except Refusal α

/-- How many arrays and objects may be open at once. -/
def maxRoom : Nat := 127

/-- Refuses a text. -/
def failFlawed {α : Type} (flaw : Flaw) : Except Refusal α := .error (.flawed flaw)

/-- Refuses a document for its shape. -/
def failMismatched {α : Type} (mismatch : Mismatch) : Except Refusal α :=
  .error (.mismatched mismatch)

/-- Refuses an array or an object that is not closed. -/
def checkEnding : Option Flaw → Except Refusal Unit
  | none => .ok ()
  | some flaw => failFlawed flaw

namespace Tree

/-- What a tree is, as far as a message tells about it. An array or an object is told by its
bracket, and so before any flaw inside it. -/
def describe : Tree → Except Refusal Found
  | .null => .ok .null
  | .bool b => .ok (.bool b)
  | .number n =>
    match n.value? with
    | some value => .ok (.number value)
    | none => failFlawed .malformed
  | .text (some s) => .ok (.text s)
  | .text none => failFlawed .malformed
  | .array _ _ => .ok .sequence
  | .object _ _ => .ok .map
  | .absent => failFlawed .unfinished
  | .broken _ flaw _ => failFlawed flaw

/-- Refuses a tree that is not what is expected. -/
def refuse {α : Type} (t : Tree) (expected : Expected) : Except Refusal α := do
  failMismatched (.wrongType (← t.describe) expected)

/-- The key of a field. -/
def key : Tree → Except Refusal String
  | .text (some s) => .ok s
  | .broken true flaw _ => failFlawed flaw
  | .absent => failFlawed .unfinished
  | _ => failFlawed .malformed

/-- Passes over a key, which may hold half of a character. -/
def passKey : Tree → Except Refusal Unit
  | .text _ => .ok ()
  | .broken true _ flaw => failFlawed flaw
  | .absent => failFlawed .unfinished
  | _ => failFlawed .malformed

mutual

/-- Passes over a value: refuses it only for a flaw. Numbers may be too large and texts may hold
half of a character. -/
def pass : Tree → Except Refusal Unit
  | .array items ending => do
    passItems items
    checkEnding ending
  | .object fields ending => do
    passFields fields
    checkEnding ending
  | .absent => failFlawed .unfinished
  | .broken _ _ flaw => failFlawed flaw
  | _ => .ok ()

/-- Passes over the items of an array. -/
def passItems : List Tree → Except Refusal Unit
  | [] => .ok ()
  | item :: rest => do
    pass item
    passItems rest

/-- Passes over the fields of an object. -/
def passFields : List (Tree × Tree) → Except Refusal Unit
  | [] => .ok ()
  | (key, value) :: rest => do
    passKey key
    pass value
    passFields rest

end

mutual

/-- Reads a value of any kind and keeps nothing of it. -/
def check (room : Nat) : Tree → Except Refusal Unit
  | .array items ending =>
    match room with
    | 0 => failFlawed .malformed
    | room + 1 => do
      checkItems room items
      checkEnding ending
  | .object fields ending =>
    match room with
    | 0 => failFlawed .malformed
    | room + 1 => do
      checkFields room fields
      checkEnding ending
  | t => do
    let _ ← t.describe

/-- Reads the items of an array and keeps nothing of them. -/
def checkItems (room : Nat) : List Tree → Except Refusal Unit
  | [] => .ok ()
  | item :: rest => do
    check room item
    checkItems room rest

/-- Reads the fields of an object and keeps nothing of them. -/
def checkFields (room : Nat) : List (Tree × Tree) → Except Refusal Unit
  | [] => .ok ()
  | (field, value) :: rest => do
    let _ ← field.key
    check room value
    checkFields room rest

end

end Tree

/-- Reads a text. -/
def readText : Reader String
  | _, .text (some s) => .ok s
  | _, t => t.refuse .text

/-- Reads a truth value. -/
def readBool : Reader Bool
  | _, .bool b => .ok b
  | _, t => t.refuse .bool

/-- Reads an integer, refusing one that `fit?` does not take. -/
def readInteger {α : Type} (expected : Expected) (fit? : Int → Option α) : Reader α
  | _, .number n =>
    match n.value? with
    | some (.integer i) =>
      match fit? i with
      | some a => .ok a
      | none => failMismatched (.wrongRange i expected)
    | _ => (Tree.number n).refuse expected
  | _, t => t.refuse expected

/-- The unsigned word with a given value. -/
def unsigned? (n : Int) : Option UInt64 :=
  if 0 ≤ n ∧ n < UInt64.size then some (UInt64.ofNat n.toNat) else none

/-- The signed word with a given value. -/
def signed? (n : Int) : Option Int64 :=
  if Int64.minValue.toInt ≤ n ∧ n ≤ Int64.maxValue.toInt then some (Int64.ofInt n) else none

/-- Reads an unsigned 64-bit integer. -/
def readUnsigned : Reader UInt64 := readInteger .unsigned unsigned?

/-- Reads a signed 64-bit integer. -/
def readSigned : Reader Int64 := readInteger .signed signed?

/-- Reads a binary64 number. An integer is rounded to the nearest one. -/
def readReal : Reader Binary64
  | _, .number n =>
    match n.value? with
    | some (.integer i) => .ok (Binary64.ofInt i)
    | some (.real x) => .ok x
    | none => failFlawed .malformed
  | _, t => t.refuse .real

/-- Reads the items of an array. -/
def readItems {α : Type} (item : Tree → Except Refusal α) : List Tree → Except Refusal (List α)
  | [] => .ok []
  | t :: rest => do
    let a ← item t
    let as ← readItems item rest
    .ok (a :: as)

/-- Reads an array. -/
def readList {α : Type} (item : Reader α) : Reader (List α)
  | 0, .array _ _ => failFlawed .malformed
  | room + 1, .array items ending => do
    let found ← readItems (item room) items
    checkEnding ending
    .ok found
  | _, t => t.refuse .sequence

/-- Finds an alternative by its name. -/
def pickAlternative {α : Type} (alternatives : List (String × α)) (name : String) :
    Except Refusal α :=
  match alternatives.lookup name with
  | some a => .ok a
  | none => failMismatched (.unknownAlternative name (alternatives.map (·.1)))

/-- Reads one of several named alternatives: its name, or an object whose only key is its name and
whose value is `null`. Anything else is taken for a flaw of the text. -/
def readAlternative {α : Type} (alternatives : List (String × α)) : Reader α
  | _, .text (some name) => pickAlternative alternatives name
  | _, .text none => failFlawed .malformed
  | _, .broken true flaw _ => failFlawed flaw
  | _, .absent => failFlawed .unfinished
  | _ + 1, .object [] ending => failFlawed (ending.getD .malformed)
  | _ + 1, .object ((key, value) :: rest) ending => do
    let a ← pickAlternative alternatives (← key.key)
    match value with
    | .null => .ok ()
    | value => value.refuse .unit
    match rest with
    | [] => checkEnding ending
    | _ :: _ => failFlawed .malformed
    .ok a
  | _, _ => failFlawed .malformed

/-- Reads a whole text. -/
def readDocument {α : Type} (reader : Reader α) (s : String) : Except Refusal α := do
  let document := parse s.toList
  let a ← reader maxRoom document.tree
  if document.hasMore then failFlawed .malformed
  .ok a

end Troupe.Json

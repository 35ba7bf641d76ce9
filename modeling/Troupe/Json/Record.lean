import Troupe.Json.Reading

/-!
# Records in documents

A record is written as an object of its fields, in any order and with unknown ones between them, or
as an array of its fields in the order of their declaration. A `Shape` tells how it is read in both
ways. While it is read, a record is a draft in which each field is set or not.
-/

namespace Troupe.Json

/-- A field of a record with drafts of type `δ`. -/
structure Slot (δ : Type) where
  /-- The name of the field. -/
  name : String
  /-- Whether a draft has the field. -/
  isSet : δ → Bool
  /-- Reads the field into a draft. -/
  set : Reader (δ → δ)

/-- The slot of a field that is read by `reader` and kept in a part of the draft. -/
def Slot.field {δ β : Type} (name : String) (reader : Reader β) (get : δ → Option β)
    (put : β → δ → δ) : Slot δ where
  name := name
  isSet draft := (get draft).isSome
  set room t := do
    let b ← reader room t
    .ok (put b)

/-- How a record of type `α` is read, with drafts of type `δ`. -/
structure Shape (δ α : Type) where
  /-- The name of the record in messages. -/
  name : String
  /-- The fields in the order of their declaration. -/
  slots : List (Slot δ)
  /-- The draft without any field. -/
  blank : δ
  /-- The record of a draft. For a field that the draft lacks and that has no default, the refusal
  for its index and name is given. -/
  finish : (Nat → String → Refusal) → δ → Except Refusal α

/-- The content of a field that has no default. -/
def require {α : Type} (lack : Nat → String → Refusal) (index : Nat) (name : String) :
    Option α → Except Refusal α
  | some a => .ok a
  | none => .error (lack index name)

namespace Shape

variable {δ α : Type}

/-- Reads the fields of a record in the order of their declaration. The array may end before the
last field and does not go on behind it. -/
def readInOrder (room : Nat) (ending : Option Flaw) :
    List (Slot δ) → List Tree → δ → Except Refusal δ
  | [], [], draft => do
    checkEnding ending
    .ok draft
  | [], _ :: _, _ => failFlawed .malformed
  | _ :: _, [], draft => do
    checkEnding ending
    .ok draft
  | slot :: slots, item :: items, draft => do
    let set ← slot.set room item
    readInOrder room ending slots items (set draft)

/-- Reads one field of an object. A field that is set already is refused by its name alone, before
its value; a field that the record does not have is passed over. -/
def readField (slots : List (Slot δ)) (room : Nat) (key value : Tree) (draft : δ) :
    Except Refusal δ := do
  let name ← key.key
  match slots.find? (·.name = name) with
  | none =>
    value.pass
    .ok draft
  | some slot =>
    if slot.isSet draft then failMismatched (.duplicateField name)
    let set ← slot.set room value
    .ok (set draft)

/-- Reads the fields of an object. -/
def readByName (slots : List (Slot δ)) (room : Nat) :
    List (Tree × Tree) → δ → Except Refusal δ
  | [], draft => .ok draft
  | (key, value) :: rest, draft => do
    let draft ← readField slots room key value draft
    readByName slots room rest draft

/-- Reads a record. -/
def read (shape : Shape δ α) : Reader α
  | 0, .array _ _ => failFlawed .malformed
  | 0, .object _ _ => failFlawed .malformed
  | room + 1, .array items ending => do
    let draft ← readInOrder room ending shape.slots items shape.blank
    let lack := fun index _ => .mismatched (.tooShort index shape.name shape.slots.length)
    shape.finish lack draft
  | room + 1, .object fields ending => do
    let draft ← readByName shape.slots room fields shape.blank
    checkEnding ending
    shape.finish (fun _ name => .mismatched (.missingField name)) draft
  | _, t => t.refuse (.record shape.name)

end Shape

end Troupe.Json

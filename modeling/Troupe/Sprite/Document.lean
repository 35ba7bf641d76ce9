import Troupe.Json.Record
import Troupe.Sprite.Basic

/-!
# Sprites in documents

A sprite is written as an object of its fields. Any signed integer is read as a heading, of which
the remainder by a full turn is kept. No field has a default.
-/

namespace Troupe

open Json

/-- Reads an identity. -/
def SpriteId.read : Reader SpriteId
  | _, .text (some s) =>
    match SpriteId.ofText? s with
    | some id => .ok id
    | none => failMismatched .badIdentifier
  | _, t => t.refuse .identifier

/-- Reads an avatar. -/
def Avatar.read : Reader Avatar :=
  readAlternative (Avatar.all.map fun avatar => (avatar.name, avatar))

/-- Reads a heading. -/
def Heading.read : Reader Heading := fun room t => do
  let angle ← readSigned room t
  .ok (.ofInt angle.toInt)

namespace Position

/-- A position as a document. -/
def toTree (p : Position) : Tree :=
  .ofFields [("x", .ofInt p.x.toInt), ("y", .ofInt p.y.toInt)]

/-- A position of which some fields are read. -/
structure Draft where
  /-- The first coordinate, if it is read. -/
  x : Option Int64 := none
  /-- The second coordinate, if it is read. -/
  y : Option Int64 := none

/-- How a position is read. -/
def shape : Shape Draft Position where
  name := "Position"
  slots := [
    .field "x" readSigned (·.x) fun a d => { d with x := some a },
    .field "y" readSigned (·.y) fun a d => { d with y := some a }]
  blank := {}
  finish lack d := do
    let x ← require lack 0 "x" d.x
    let y ← require lack 1 "y" d.y
    .ok { x, y }

end Position

namespace Bubble

/-- A bubble as a document. -/
def toTree (b : Bubble) : Tree :=
  .ofFields [("text", .ofString b.text), ("visible", .bool b.visible)]

/-- A bubble of which some fields are read. -/
structure Draft where
  /-- The text, if it is read. -/
  text : Option String := none
  /-- Whether it is shown, if that is read. -/
  visible : Option Bool := none

/-- How a bubble is read. -/
def shape : Shape Draft Bubble where
  name := "Bubble"
  slots := [
    .field "text" readText (·.text) fun a d => { d with text := some a },
    .field "visible" readBool (·.visible) fun a d => { d with visible := some a }]
  blank := {}
  finish lack d := do
    let text ← require lack 0 "text" d.text
    let visible ← require lack 1 "visible" d.visible
    .ok { text, visible }

end Bubble

namespace Sprite

/-- A sprite as a document. -/
def toTree (s : Sprite) : Tree :=
  .ofFields [("id", .ofString s.id.toText), ("kind", .ofString s.avatar.name),
    ("name", .ofString s.name), ("position", s.position.toTree),
    ("rotation", .ofInt s.heading.toInt), ("speech", s.speech.toTree),
    ("thought", s.thought.toTree)]

/-- A sprite of which some fields are read. -/
structure Draft where
  /-- The identity, if it is read. -/
  id : Option SpriteId := none
  /-- The avatar, if it is read. -/
  avatar : Option Avatar := none
  /-- The name, if it is read. -/
  name : Option String := none
  /-- The position, if it is read. -/
  position : Option Position := none
  /-- The heading, if it is read. -/
  heading : Option Heading := none
  /-- The speech bubble, if it is read. -/
  speech : Option Bubble := none
  /-- The thought bubble, if it is read. -/
  thought : Option Bubble := none

/-- How a sprite is read. -/
def shape : Shape Draft Sprite where
  name := "Sprite"
  slots := [
    .field "id" SpriteId.read (·.id) fun a d => { d with id := some a },
    .field "kind" Avatar.read (·.avatar) fun a d => { d with avatar := some a },
    .field "name" readText (·.name) fun a d => { d with name := some a },
    .field "position" Position.shape.read (·.position) fun a d => { d with position := some a },
    .field "rotation" Heading.read (·.heading) fun a d => { d with heading := some a },
    .field "speech" Bubble.shape.read (·.speech) fun a d => { d with speech := some a },
    .field "thought" Bubble.shape.read (·.thought) fun a d => { d with thought := some a }]
  blank := {}
  finish lack d := do
    let id ← require lack 0 "id" d.id
    let avatar ← require lack 1 "kind" d.avatar
    let name ← require lack 2 "name" d.name
    let position ← require lack 3 "position" d.position
    let heading ← require lack 4 "rotation" d.heading
    let speech ← require lack 5 "speech" d.speech
    let thought ← require lack 6 "thought" d.thought
    .ok { id, avatar, name, position, heading, speech, thought }

/-- Reads a sprite. -/
def read : Reader Sprite := shape.read

end Sprite

end Troupe

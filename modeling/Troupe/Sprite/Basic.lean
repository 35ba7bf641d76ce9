import Troupe.Sprite.Avatar
import Troupe.Sprite.Heading
import Troupe.Sprite.Identity
import Troupe.Sprite.Position
import Troupe.Text.Capital

/-!
# Sprites

A sprite has an identity and an avatar, which it keeps, and a name, a position, a heading and two
bubbles, which change.
-/

namespace Troupe

/-- A bubble beside a sprite. -/
structure Bubble where
  /-- The text in it. -/
  text : String := ""
  /-- Whether it is shown. -/
  visible : Bool := false
deriving DecidableEq, Repr, Inhabited

namespace Bubble

/-- The bubble shown with a text. -/
def shown (text : String) : Bubble := { text, visible := true }

/-- The bubble hidden. It keeps its text. -/
def hide (b : Bubble) : Bubble := { b with visible := false }

end Bubble

/-- An actor on the stage. -/
structure Sprite where
  /-- Who it is. -/
  id : SpriteId
  /-- What it looks like. -/
  avatar : Avatar
  /-- What it is called. -/
  name : String
  /-- Where it is. -/
  position : Position
  /-- Where it is turned to. -/
  heading : Heading
  /-- What it says. -/
  speech : Bubble
  /-- What it thinks. -/
  thought : Bubble
deriving DecidableEq, Repr, Inhabited

namespace Sprite

/-- A new sprite, called like its avatar. -/
def create (id : SpriteId) (avatar : Avatar) (position : Position) : Sprite where
  id := id
  avatar := avatar
  name := avatar.name
  position := position
  heading := .ofInt 0
  speech := {}
  thought := {}

/-- The sprite shifted along the first axis, whatever its heading. -/
def shift (s : Sprite) (distance : Int64) : Sprite :=
  { s with position := s.position.shift distance }

/-- The sprite at another position. -/
def place (s : Sprite) (position : Position) : Sprite := { s with position }

/-- Turns the sprite clockwise. -/
def tryTurn (s : Sprite) (angle : Int64) : Except Fault Sprite := do
  let heading ← s.heading.turn angle
  .ok { s with heading }

/-- Turns the sprite counter-clockwise. -/
def tryTurnLeft (s : Sprite) (angle : Int64) : Except Fault Sprite := do
  let heading ← s.heading.turnLeft angle
  .ok { s with heading }

/-- The sprite turned clockwise. There is always one, by `Sprite.tryTurn_eq_ok`. -/
def turn (s : Sprite) (angle : Int64) : Sprite := (s.tryTurn angle).toOption.getD s

/-- The sprite turned counter-clockwise. There is always one, by `Sprite.tryTurnLeft_eq_ok`. -/
def turnLeft (s : Sprite) (angle : Int64) : Sprite := (s.tryTurnLeft angle).toOption.getD s

/-- The sprite turned to a heading. -/
def face (s : Sprite) (angle : Int64) : Sprite := { s with heading := .ofInt angle.toInt }

/-- The sprite called by another name. -/
def rename (s : Sprite) (name : String) : Sprite := { s with name }

/-- The sprite with its speech bubble shown. -/
def say (s : Sprite) (text : String) : Sprite := { s with speech := .shown text }

/-- The sprite with its speech bubble hidden. -/
def hush (s : Sprite) : Sprite := { s with speech := s.speech.hide }

/-- The sprite with its thought bubble shown. -/
def think (s : Sprite) (text : String) : Sprite := { s with thought := .shown text }

/-- The sprite with its thought bubble hidden. -/
def unthink (s : Sprite) : Sprite := { s with thought := s.thought.hide }

/-- A sprite can be turned clockwise by any 64-bit word. -/
theorem tryTurn_eq_ok (s : Sprite) (angle : Int64) : s.tryTurn angle = .ok (s.turn angle) := by
  rw [turn, tryTurn, Heading.turn_eq_ok]
  rfl

/-- A sprite can be turned counter-clockwise by any 64-bit word. -/
theorem tryTurnLeft_eq_ok (s : Sprite) (angle : Int64) :
    s.tryTurnLeft angle = .ok (s.turnLeft angle) := by
  rw [turnLeft, tryTurnLeft, Heading.turnLeft_eq_ok]
  rfl

/-- A turn is added to the heading. -/
theorem turn_eq (s : Sprite) (angle : Int64) :
    s.turn angle = { s with heading := .ofInt (s.heading.toInt + angle.toInt) } := by
  rw [turn, tryTurn, Heading.turn_eq_ok]
  rfl

/-- A counter-clockwise turn is subtracted from the heading. -/
theorem turnLeft_eq (s : Sprite) (angle : Int64) :
    s.turnLeft angle = { s with heading := .ofInt (s.heading.toInt - angle.toInt) } := by
  rw [turnLeft, tryTurnLeft, Heading.turnLeft_eq_ok]
  rfl

/-- The line that tells where a sprite is. Its name starts with a capital. -/
def caption (s : Sprite) : String :=
  s!"{capitalize s.name}: {s.position.x.toInt},{s.position.y.toInt}"

end Sprite

end Troupe
